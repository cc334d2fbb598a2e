import StructVault.Main
import StructVault.Plugin
import StructVault.Proofs.Files.Replacing
import StructVault.Proofs.Program.Load
import StructVault.Proofs.Snapshot.Corruption
import StructVault.Proofs.Snapshot.Extension
import StructVault.Proofs.Transfer.RoundTrip
import StructVault.Proofs.Transfer.Visits
import StructVault.Structure.Json
import StructVault.Proofs.Snapshot.CountChecks
import StructVault.Proofs.Snapshot.Announced
import StructVault.Proofs.Structure.Json
import StructVault.Proofs.Program.Produce
import StructVault.Proofs.Program.RoundTrip
import StructVault.Proofs.Snapshot.Reservation
import StructVault.Proofs.Database.FirstBreach
import StructVault.Proofs.Database.Listing
import StructVault.Proofs.Database.NormalForm
import StructVault.Proofs.Database.Handles
import StructVault.Proofs.Plugin
import StructVault.Proofs.Snapshot.Summary
import StructVault.Proofs.Report.Listing
import StructVault.Proofs.Report.Lines
import StructVault.Proofs.Report.Table
