import MwCom.Configuration.AccessControl
import MwCom.Configuration.ConfigurationOwnership
import MwCom.Configuration.ElementIds
import MwCom.Configuration.IdentifierOrder
import MwCom.Configuration.SpecifierGrammar
import MwCom.Lola.AllocationRetries
import MwCom.Lola.ControlShmSize
import MwCom.Lola.CrashCleanUp
import MwCom.Lola.CrashSafety
import MwCom.Lola.FieldValue
import MwCom.Lola.FileNames
import MwCom.Lola.MemoryCompleteness
import MwCom.Lola.QmDisconnect
import MwCom.Lola.RollbackCompleteness
import MwCom.Lola.SampleDelivery
import MwCom.Lola.SamplePtr
import MwCom.Lola.SendNumber
import MwCom.Lola.SlotLock
import MwCom.Lola.SubscriptionAccounting
import MwCom.Lola.UidPidRegistration
import MwCom.Lola.UndisturbedCollection
import MwCom.Lola.ZeroCopySend
import MwCom.MessagePassing.QueueOwnership
import MwCom.MessagePassing.SendQueue
import MwCom.Messages.SentMessages
import MwCom.Messaging.CleanUpLaw
import MwCom.Messaging.EventInterest
import MwCom.Messaging.LocalDelivery
import MwCom.Messaging.RegistrationCount
import MwCom.Messaging.RemoteFanOut
import MwCom.Proxy.BookedSamples
import MwCom.Proxy.MoveLaw
import MwCom.Proxy.ReferenceConservation
import MwCom.Proxy.SampleHandOver
import MwCom.ServiceDiscovery.CallbackLifetime
import MwCom.ServiceDiscovery.DiscoveryDeadlock
import MwCom.ServiceDiscovery.InstanceSets
import MwCom.ServiceDiscovery.OfferFiles
import MwCom.Tracing.ShmObjectLifetime
import MwCom.Tracing.TraceFilterLaw
import MwCom.Tracing.TraceLoss
