import AvrSetup.Files.Store
import AvrSetup.Main
import AvrSetup.Proofs.Sessions
import AvrSetup.Proofs.Overlap
import AvrSetup.Proofs.Conservation
import AvrSetup.Proofs.Totality
import AvrSetup.Proofs.Outputs
import AvrSetup.Proofs.SingleInterrupt
import AvrSetup.Proofs.Routines
import AvrSetup.Proofs.Addition
import AvrSetup.Proofs.Watching
import AvrSetup.Proofs.Calls
import AvrSetup.Proofs.WellFormedness
import AvrSetup.Proofs.Spelling
import AvrSetup.Proofs.Writing
import AvrSetup.Proofs.Persistence
import AvrSetup.Proofs.Reach
import AvrSetup.Proofs.UnknownSettings
import AvrSetup.Proofs.MissingValues
import AvrSetup.Proofs.TemplateText
import AvrSetup.Proofs.Batches
import AvrSetup.Proofs.SharedSettings
import AvrSetup.Proofs.Clock
import AvrSetup.Proofs.ModeKeys
import AvrSetup.Proofs.ConditionText
import AvrSetup.Proofs.Rounding
import AvrSetup.Proofs.Idempotence
import AvrSetup.Proofs.PinMapping
import AvrSetup.Proofs.SourceFile
import AvrSetup.Proofs.ElementTexts
import AvrSetup.Proofs.Warnings
import AvrSetup.Proofs.Rehearsal
