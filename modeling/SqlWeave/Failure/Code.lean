/-!
# Error codes

Each category of failure has its own range, so that a code tells the kind of failure by itself.
-/

namespace SqlWeave

inductive ErrorCode where
  | config | configMissing | featureUnsupported
  | validation | invalidArgument | invalidIdentifier
  | connection | notConnected | packageMissing
  | execution | queryExecution | runnerReleased | transaction
  | resourceNotFound | storageNotFound | metadataNotFound
  | platformUnsupported
  deriving DecidableEq, Inhabited

namespace ErrorCode

/-- Every code, in the order of the ranges. -/
def all : List ErrorCode :=
  [.config, .configMissing, .featureUnsupported, .validation, .invalidArgument, .invalidIdentifier,
    .connection, .notConnected, .packageMissing, .execution, .queryExecution, .runnerReleased,
    .transaction, .resourceNotFound, .storageNotFound, .metadataNotFound, .platformUnsupported]

/-- The name a code is called by. -/
def label : ErrorCode → String
  | .config => "CONFIG_ERROR"
  | .configMissing => "CONFIG_MISSING"
  | .featureUnsupported => "FEATURE_NOT_SUPPORTED"
  | .validation => "VALIDATION_ERROR"
  | .invalidArgument => "INVALID_ARGUMENT"
  | .invalidIdentifier => "INVALID_IDENTIFIER"
  | .connection => "CONNECTION_ERROR"
  | .notConnected => "NOT_CONNECTED"
  | .packageMissing => "DRIVER_PACKAGE_MISSING"
  | .execution => "EXECUTION_ERROR"
  | .queryExecution => "QUERY_EXECUTION_ERROR"
  | .runnerReleased => "RUNNER_RELEASED"
  | .transaction => "TRANSACTION_ERROR"
  | .resourceNotFound => "RESOURCE_NOT_FOUND"
  | .storageNotFound => "STORAGE_NOT_FOUND"
  | .metadataNotFound => "METADATA_NOT_FOUND"
  | .platformUnsupported => "PLATFORM_NOT_SUPPORTED"

/-- The code as it is reported. -/
def word : ErrorCode → String
  | .config => "CONFIG_001"
  | .configMissing => "CONFIG_002"
  | .featureUnsupported => "CONFIG_003"
  | .validation => "VALIDATION_001"
  | .invalidArgument => "VALIDATION_002"
  | .invalidIdentifier => "VALIDATION_003"
  | .connection => "CONNECTION_001"
  | .notConnected => "CONNECTION_002"
  | .packageMissing => "CONNECTION_003"
  | .execution => "EXECUTION_001"
  | .queryExecution => "EXECUTION_002"
  | .runnerReleased => "EXECUTION_003"
  | .transaction => "EXECUTION_004"
  | .resourceNotFound => "RESOURCE_001"
  | .storageNotFound => "RESOURCE_002"
  | .metadataNotFound => "RESOURCE_003"
  | .platformUnsupported => "PLATFORM_001"

/-- The code with a name. -/
def ofLabel? (s : String) : Option ErrorCode := all.find? (·.label = s)

theorem mem_all (c : ErrorCode) : c ∈ all := by cases c <;> decide

end ErrorCode

end SqlWeave
