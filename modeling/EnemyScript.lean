import EnemyScript.CommandLine.Group
import EnemyScript.Main
import EnemyScript.Numeral.Scientific
import EnemyScript.Raw.Script
import EnemyScript.Script.Equality
import EnemyScript.Proofs.Arguments
import EnemyScript.Proofs.Records
import EnemyScript.Proofs.RoundTrip
import EnemyScript.Proofs.Canonical
import EnemyScript.Proofs.Surroundings
import EnemyScript.Proofs.Appending
import EnemyScript.Proofs.Faults
import EnemyScript.Proofs.Assembly
import EnemyScript.Proofs.FieldText
import EnemyScript.Proofs.WellFormed
import EnemyScript.Proofs.Decimals
import EnemyScript.Proofs.Relocation
import EnemyScript.Proofs.Spelling
import EnemyScript.Proofs.Groups
import EnemyScript.Proofs.Views
import EnemyScript.Proofs.RankText
import EnemyScript.Proofs.RankMasks
import EnemyScript.Proofs.Entries
import EnemyScript.Proofs.Columns
import EnemyScript.Proofs.PrintableText
import EnemyScript.Proofs.PrintedLines
import EnemyScript.Proofs.Assignments
import EnemyScript.Proofs.Outcomes
import EnemyScript.Proofs.Rearrangement
import EnemyScript.Proofs.FieldByField
import EnemyScript.Proofs.RecordDecisions
import EnemyScript.Proofs.SingleValues
import EnemyScript.Proofs.SameStreams
import EnemyScript.Proofs.Tiling
import EnemyScript.Proofs.WrittenText
import EnemyScript.Proofs.BrokenText
import EnemyScript.Proofs.GeneralText
import EnemyScript.Proofs.InstructionText
import EnemyScript.Proofs.EqualInstructions
import EnemyScript.Proofs.Histogram
import EnemyScript.Proofs.WidenedFields
import EnemyScript.Proofs.IntegerFields
