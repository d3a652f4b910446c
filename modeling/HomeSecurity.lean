import HomeSecurity.CText
import HomeSecurity.CSearch
import HomeSecurity.FormText
import HomeSecurity.PathText
import HomeSecurity.Lts
import HomeSecurity.LinkedQueue
import HomeSecurity.FifoRing
import HomeSecurity.CyclicRun
import HomeSecurity.SlotTable
import HomeSecurity.KeyedSlots
import HomeSecurity.FdTable
import HomeSecurity.Rounding
import HomeSecurity.Json
import HomeSecurity.Wire
import HomeSecurity.HubState
import HomeSecurity.HubTables
import HomeSecurity.PendingTable
import HomeSecurity.RingLog
import HomeSecurity.History
import HomeSecurity.HubLine
import HomeSecurity.HubDoors
import HomeSecurity.HubEffects
import HomeSecurity.OfflineCheck
import HomeSecurity.OfflineEvents
import HomeSecurity.UdpThread
import HomeSecurity.Sockets
import HomeSecurity.EventLog
import HomeSecurity.Endpoints
import HomeSecurity.DoorTable
import HomeSecurity.HubDirectory
import HomeSecurity.Isolation
import HomeSecurity.PrematureOffline
import HomeSecurity.Replica
import HomeSecurity.DoorUdp
import HomeSecurity.HubReports
import HomeSecurity.LatestReport
import HomeSecurity.Mirror
import HomeSecurity.StepperMotor
import HomeSecurity.StepperRuns
import HomeSecurity.DoorMod
import HomeSecurity.Sensor
import HomeSecurity.BoltReport
import HomeSecurity.BoltSafety
import HomeSecurity.ReturnedDoor
import HomeSecurity.SensorFailure
import HomeSecurity.Reporting
import HomeSecurity.Gpio
import HomeSecurity.PinIo
import HomeSecurity.Pwm
import HomeSecurity.LedWorker
import HomeSecurity.LedPatterns
import HomeSecurity.Ledger
import HomeSecurity.Relay
import HomeSecurity.HubCommand
import HomeSecurity.Acknowledgement
import HomeSecurity.Site
import HomeSecurity.Issuers
import HomeSecurity.CommandFrame
import HomeSecurity.Routing
import HomeSecurity.Retransmission
import HomeSecurity.DoorServer
import HomeSecurity.Correlation
import HomeSecurity.AnsweredOnce
import HomeSecurity.StatusReport
import HomeSecurity.Decoders
import HomeSecurity.WebPage
import HomeSecurity.WebSite
import HomeSecurity.StaticServer
import HomeSecurity.RoundTrip
import HomeSecurity.HttpApi
import HomeSecurity.TokenGate
import HomeSecurity.ApiRequest
import HomeSecurity.Segmentation
import HomeSecurity.HouseTrips
import HomeSecurity.HttpExchange
import HomeSecurity.ApiCommand
import HomeSecurity.ApiSubject
import HomeSecurity.TimelyAnswer
import HomeSecurity.JsonBodies
import HomeSecurity.AlertMonitor
import HomeSecurity.WebhookQueue
