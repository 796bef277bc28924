import DataSheet.Main
import DataSheet.Proofs.Names
import DataSheet.Proofs.Report
import DataSheet.Proofs.Typing
import DataSheet.Proofs.Bare
import DataSheet.Proofs.Commute
import DataSheet.Proofs.Soundness
import DataSheet.Proofs.Order
import DataSheet.Proofs.Layout
import DataSheet.Proofs.Digits
import DataSheet.Proofs.Transcript
import DataSheet.Proofs.Emitted
import DataSheet.Proofs.Emittable
import DataSheet.Proofs.Items
import DataSheet.Proofs.Described
import DataSheet.Proofs.Alike
import DataSheet.Proofs.Node
import DataSheet.Proofs.Headings
import DataSheet.Proofs.Runs
import DataSheet.Proofs.Provenance
import DataSheet.Proofs.Faults
import DataSheet.Proofs.Acceptance
import DataSheet.Proofs.Atomic
import DataSheet.Proofs.WrittenOut
import DataSheet.Proofs.Grammar
import DataSheet.Proofs.Sessions
import DataSheet.Proofs.Integers
import DataSheet.Proofs.Rounding
import DataSheet.Proofs.Decimals
import DataSheet.Proofs.Quoted
import DataSheet.Proofs.Defaults
import DataSheet.Proofs.Elements
import DataSheet.Proofs.Collisions
import DataSheet.Proofs.Ignored
import DataSheet.Proofs.Definitions
import DataSheet.Proofs.SectionNames
import DataSheet.Proofs.NameLists
import DataSheet.Proofs.Printed
import DataSheet.Proofs.Dumps
import DataSheet.Proofs.Guarded
import DataSheet.Proofs.Positions
import DataSheet.Proofs.Unfailing
