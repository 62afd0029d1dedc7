-- Settings: where the data is, how answers are laid out, which notices are
-- told and how much gas a call may use.
import RetryTickets.Files.Path
import RetryTickets.Text.Numeral

namespace RetryTickets

/-- The settings of a run. -/
structure Config where
  dataDirectory : Path
  outputFormat : String
  logLevel : String
  gasLimit : UInt64
  deriving DecidableEq

/-- The values that the environment gives to settings. -/
structure Environment where
  dataDirectory : Option String
  outputFormat : Option String
  logLevel : Option String
  gasLimit : Option String
  deriving DecidableEq

namespace Environment

/-- Nothing set. -/
def empty : Environment := ⟨none, none, none, none⟩

/-- The variable for the data directory. -/
def dataDirectoryVariable : String := "RETRYABLE_CHAIN_DATA_DIR"

/-- The variable for the layout of answers. -/
def outputFormatVariable : String := "RETRYABLE_CHAIN_OUTPUT_FORMAT"

/-- The variable for the threshold of notices. -/
def logLevelVariable : String := "RETRYABLE_CHAIN_LOG_LEVEL"

/-- The variable for the gas of a call. -/
def gasLimitVariable : String := "RETRYABLE_CHAIN_GAS_LIMIT"

end Environment

namespace Config

/-- The gas of a call for which nothing else is said. -/
def defaultGasLimit : UInt64 := 1000000

/-- The settings for which nothing is said, in a working directory. -/
def default (working : Path) : Config := {
  dataDirectory := working.join ".retryable-chain"
  outputFormat := "human"
  logLevel := "info"
  gasLimit := defaultGasLimit }

/-- The default settings with what the environment says in their place. A gas limit that is
no numeral is passed over. -/
def ofEnvironment (working : Path) (environment : Environment) : Config :=
  let config := default working
  { dataDirectory := (environment.dataDirectory.map Path.ofText).getD config.dataDirectory
    outputFormat := environment.outputFormat.getD config.outputFormat
    logLevel := environment.logLevel.getD config.logLevel
    gasLimit := (environment.gasLimit.bind Text.word64?).getD config.gasLimit }

/-- Where the event log is. -/
def eventLogPath (config : Config) : Path := config.dataDirectory.join "events.log"

/-- Where the snapshot is. -/
def snapshotPath (config : Config) : Path := config.dataDirectory.join "tickets.bin"

end Config

end RetryTickets
