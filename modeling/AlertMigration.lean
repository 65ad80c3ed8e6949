import AlertMigration.Edit
import AlertMigration.Main
import AlertMigration.StructuralPattern
import AlertMigration.Proofs.ClosingTails
import AlertMigration.Proofs.LineStructure
import AlertMigration.Proofs.SecondMigration
import AlertMigration.Proofs.Backups
import AlertMigration.Proofs.ArgumentMarkers
import AlertMigration.Proofs.LineEndings
import AlertMigration.Proofs.InertLines
import AlertMigration.Proofs.ReplacementReach
import AlertMigration.Proofs.Locality
import AlertMigration.Proofs.Sessions
import AlertMigration.Proofs.CheckCommand
import AlertMigration.Proofs.CallLanguage
import AlertMigration.Proofs.ChangedTexts
import AlertMigration.Proofs.CommandEffects
import AlertMigration.Proofs.ServiceAgreement
import AlertMigration.Proofs.PassCounts
import AlertMigration.Proofs.PrintedCalls
import AlertMigration.Proofs.BlockEnds
import AlertMigration.Proofs.CompiledPatterns
import AlertMigration.Proofs.ConfigNormalForm
import AlertMigration.Proofs.SourceSelection
