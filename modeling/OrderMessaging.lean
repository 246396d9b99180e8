import OrderMessaging.Library.PyText
import OrderMessaging.Library.ReplacingDecoder
import OrderMessaging.Library.PyException
import OrderMessaging.Library.PyValue
import OrderMessaging.Library.PyJson
import OrderMessaging.Library.JsonText
import OrderMessaging.Library.JsonSchema
import OrderMessaging.Library.CharacterRuns
import OrderMessaging.Library.Relation
import OrderMessaging.Library.Program
import OrderMessaging.Library.Polling
import OrderMessaging.Library.Interleaving
import OrderMessaging.Library.Projection
import OrderMessaging.Library.Transcript
import OrderMessaging.Library.ClaimLedger
import OrderMessaging.Library.ReadCommitted
import OrderMessaging.Library.AtomicObject
import OrderMessaging.Library.Reception
import OrderMessaging.Contracts.Models
import OrderMessaging.Contracts.Validation
import OrderMessaging.Contracts.Reference
import OrderMessaging.Contracts.Agreement
import OrderMessaging.Contracts.WireFormat
import OrderMessaging.Processing.PostgresOrderStore
import OrderMessaging.Processing.OrderLedger
import OrderMessaging.Processing.StoreHistory
import OrderMessaging.Processing.StoreFidelity
import OrderMessaging.Processing.StoreOperations
import OrderMessaging.Processing.ConcurrentStore
import OrderMessaging.Processing.ConcurrentSerial
import OrderMessaging.Processing.ConcurrentInvariant
import OrderMessaging.Processing.ConcurrentSteps
import OrderMessaging.Processing.ConcurrentPairing
import OrderMessaging.Processing.ConcurrentRecords
import OrderMessaging.Processing.ConcurrentAtomicity
import OrderMessaging.Processing.ConcurrentProjection
import OrderMessaging.Processing.ConcurrentIdempotence
import OrderMessaging.Processing.KafkaCollaborators
import OrderMessaging.Processing.RetryAndDeadLetter
import OrderMessaging.Processing.KafkaDelivery
import OrderMessaging.Processing.SqsDelivery
import OrderMessaging.Processing.DecodeAgreement
import OrderMessaging.Processing.SqsAcknowledgement
import OrderMessaging.Processing.NotificationClient
import OrderMessaging.Processing.DeliveryOutcome
import OrderMessaging.Processing.DeliveryConfluence
import OrderMessaging.Processing.DeliveryScope
import OrderMessaging.Processing.DeliveryTranscript
import OrderMessaging.Processing.RetryAccounting
import OrderMessaging.Processing.DeadLetterEnvelope
import OrderMessaging.Processing.AcceptedNotification
import OrderMessaging.Processing.DeliveryFailure
import OrderMessaging.Processing.CompletionPermanence
import OrderMessaging.Processing.NotifiedFirst
import OrderMessaging.Processing.PoisonRecords
import OrderMessaging.Processing.DeliveryErrors
import OrderMessaging.Processing.OriginalPayload
import OrderMessaging.Processing.DuplicateFlag
import OrderMessaging.Messaging.SharedProducer
import OrderMessaging.Messaging.EventPublishers
import OrderMessaging.Messaging.RoundTrip
import OrderMessaging.Messaging.KafkaPublication
import OrderMessaging.Messaging.PublishVerdict
import OrderMessaging.Messaging.TopicAdmin
import OrderMessaging.Messaging.ClusterGrowth
import OrderMessaging.Messaging.TopicWaits
import OrderMessaging.OrderApi.HttpApi
import OrderMessaging.LocalLab.ConsumerControls
import OrderMessaging.LocalLab.ConsumerWorker
import OrderMessaging.LocalLab.WorkerSettlement
import OrderMessaging.LocalLab.WorkerProvenance
import OrderMessaging.LocalLab.WorkerRecovery
import OrderMessaging.LocalLab.PausedWorkers
import OrderMessaging.LocalLab.PauseGap
import OrderMessaging.LocalLab.OrderJourney
import OrderMessaging.LocalLab.SqsJourney
import OrderMessaging.LocalLab.ResourceSetup
import OrderMessaging.LocalLab.Provisioning
import OrderMessaging.TestHelpers.ResourceNames
import OrderMessaging.TestHelpers.EventProbe
import OrderMessaging.TestHelpers.ProbeOrder
