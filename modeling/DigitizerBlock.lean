import DigitizerBlock.Basic
import DigitizerBlock.Settings
import DigitizerBlock.Trigger
import DigitizerBlock.Poller
import DigitizerBlock.Lifecycle
import DigitizerBlock.Stream
import DigitizerBlock.RapidBlock
import DigitizerBlock.System
import DigitizerBlock.Requests
import DigitizerBlock.Protocol
import DigitizerBlock.Timebase
import DigitizerBlock.Configuration
import DigitizerBlock.StreamRun
import DigitizerBlock.CaptureState
