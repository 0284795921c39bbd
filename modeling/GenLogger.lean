import GenLogger.Lib.CString
import GenLogger.Lib.Decimal
import GenLogger.Config.Metadata
import GenLogger.Lib.Strtok
import GenLogger.Platform.FileHandler
import GenLogger.Config.Storage
import GenLogger.Config.Terminal
import GenLogger.Config.Task
import GenLogger.Platform.Ticks
import GenLogger.Platform.Uart
import GenLogger.Config.RoundTrip
import GenLogger.Config.NameSession
import GenLogger.Config.Report
import GenLogger.Config.Load
import GenLogger.Config.Period
import GenLogger.Config.StoredPeriod
import GenLogger.Network.HttpClient
import GenLogger.Network.Transactions
import GenLogger.Measurement.Processing
import GenLogger.Logger.LoggerManager
import GenLogger.SuperLoop
import GenLogger.Logger.Logged
import GenLogger.Network.Delivery
import GenLogger.Logger.FileChoice
import GenLogger.Measurement.Timestamp
import GenLogger.Measurement.Requests
import GenLogger.Config.Prompts
import GenLogger.Config.Streaming
import GenLogger.Config.Interleaving
import GenLogger.Lib.Calendar
import GenLogger.Rtc.Drivers
import GenLogger.Rtc.Calendar
import GenLogger.Config.SetClock
import GenLogger.Config.TimeFormat
import GenLogger.Config.PeriodInput
import GenLogger.Lib.Poll
import GenLogger.Lib.Stores
import GenLogger.SdCard.Driver
import GenLogger.SdCard.Protocol
import GenLogger.SdCard.Read
import GenLogger.SdCard.Write
import GenLogger.Lib.Interaction
import GenLogger.SdCard.Initialize
import GenLogger.SdCard.Conversation
import GenLogger.Lib.Dialogue
import GenLogger.SdCard.Probe
import GenLogger.SdCard.Status
import GenLogger.SdCard.Addressing
import GenLogger.Flash.W25Q64
import GenLogger.Platform.ChipSelect
import GenLogger.Flash.Chip
import GenLogger.Flash.BlockDevice
import GenLogger.Platform.FatFs
import GenLogger.Platform.LittleFs
import GenLogger.Platform.Contract
import GenLogger.SdCard.Capacity
import GenLogger.Logger.LastLine
import GenLogger.Config.Frame
import GenLogger.Config.SampleRate
import GenLogger.Config.LineCommand
import GenLogger.Platform.OpenFiles
import GenLogger.Flash.Framing
import GenLogger.Lib.Halting
import GenLogger.SdCard.Returning
import GenLogger.Adc.Ads1115
import GenLogger.Lib.Walk
import GenLogger.Config.Bounds
import GenLogger.Config.NameEnds
import GenLogger.Lib.WriteBack
import GenLogger.Lib.Packed
import GenLogger.Lib.Chains
import GenLogger.Lib.Fragments
import GenLogger.Lib.Chunks
import GenLogger.Lib.Crc
import GenLogger.Fat.Volume
import GenLogger.Fat.Window
import GenLogger.Fat.Mount
import GenLogger.Fat.Table
import GenLogger.Fat.Chain
import GenLogger.Fat.Allocation
import GenLogger.Fat.LinkMap
import GenLogger.Fat.DataArea
import GenLogger.Fat.File
import GenLogger.Fat.FileCache
import GenLogger.Fat.FileRead
import GenLogger.Fat.FileWrite
import GenLogger.Fat.FileSeek
import GenLogger.Fat.FileOpen
import GenLogger.Fat.FileRun
import GenLogger.Fat.FileSession
import GenLogger.Thermometer.Aht21
