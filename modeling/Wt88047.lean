import Wt88047.MmCamera.SuperbufDispatch
import Wt88047.MmCamera.StreamRelease
import Wt88047.MmCamera.ChannelTeardown
import Wt88047.MmCamera.HandleProbes
import Wt88047.MmCamera.IntfLocks
import Wt88047.Gps.AgpsBalance
import Wt88047.Gps.AgpsRestart
import Wt88047.Gps.LocTimerCallback
import Wt88047.Gps.LocTimerKernel
import Wt88047.Gps.NiProtocol
import Wt88047.QCamera.ApiResult
import Wt88047.QCamera.PreviewRuns
import Wt88047.Sensors.EventDelivery
import Wt88047.Sensors.SamplingDelay
import Wt88047.Sensors.FlushComplete
import Wt88047.Sensors.PollEvents
import Wt88047.Sensors.CalibrationStore
import Wt88047.Jpeg.SessionResources
import Wt88047.Jpeg.JobWakeups
import Wt88047.Jpeg.SessionCreation
import Wt88047.Jpeg.WorkSharing
import Wt88047.MmCamera.CameraRefCount
import Wt88047.MmCamera.MapUnmap
import Wt88047.ImageCodec.OmxCore
import Wt88047.QCamera.MemoryOwnership
import Wt88047.QCamera.PostProcRuns
import Wt88047.QCamera.ParamBatchMap
import Wt88047.QCamera.JpegMemory
import Wt88047.QCamera.StreamNotify
import Wt88047.QCamera.DeferredWork
import Wt88047.QCamera.ResultDelivery
import Wt88047.QCamera.CbNotifierRuns
import Wt88047.QCamera.TakePictureFailure
import Wt88047.QCamera.ParamSections
import Wt88047.QCamera.ParamAcceptance
import Wt88047.Gps.MsgTask
import Wt88047.MmCamera.StreamSlots
import Wt88047.MmCamera.ChannelRestart
import Wt88047.MmCamera.SuperbufLimit
import Wt88047.QCamera.FrameRelease
import Wt88047.Jpeg.DecodeAnswers
import Wt88047.Gps.UsedInFix
import Wt88047.Gps.MuteSession
import Wt88047.Gps.FixSession
import Wt88047.Gps.UpdateConf
import Wt88047.Gps.EncodeInPlace
import Wt88047.Gps.LocApiAdapters
import Wt88047.Gps.AgpsNotify
import Wt88047.Sensors.ReadsReturn
import Wt88047.Sensors.ReaderFifo
import Wt88047.Sensors.LastEvent
import Wt88047.Sensors.SensorEnumeration
import Wt88047.Sensors.CalibrationManager
import Wt88047.Sensors.CalibrateReply
import Wt88047.Jpeg.JobIdRuns
import Wt88047.QCamera.BufDef
import Wt88047.QCamera.WindowBuffers
import Wt88047.QCamera.VideoMemory
import Wt88047.QCamera.StreamBufferRuns
import Wt88047.QCamera.StreamInfo
import Wt88047.QCamera.LinkedStreams
import Wt88047.QCamera.OfflineReprocess
import Wt88047.Jpeg.ExifTable
import Wt88047.MmCamera.CameraEnumeration
import Wt88047.QCamera.CameraAreas
import Wt88047.QCamera.ThermalRates
import Wt88047.Gps.MiscUtils
import Wt88047.Gps.DmnMessages
import Wt88047.Gps.DmnThread
import Wt88047.Gps.MsgQueue
import Wt88047.Jpeg.JpegQueue
import Wt88047.QCamera.CameraQueue
import Wt88047.QCamera.NotifyMemory
import Wt88047.QCamera.SnapshotCounts
import Wt88047.MmCamera.PollThread
import Wt88047.QCamera.SmEvtProc
