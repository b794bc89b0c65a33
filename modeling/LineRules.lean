import LineRules.CommandLine
import LineRules.Filter.Named
import LineRules.Main
import LineRules.Proofs.Captures
import LineRules.Proofs.ComputedKeys
import LineRules.Proofs.Isolation
import LineRules.Proofs.Pattern.LineEnd
import LineRules.Proofs.Readings
import LineRules.Proofs.Erasure
import LineRules.Proofs.Accounts
import LineRules.Proofs.Collecting
import LineRules.Proofs.Refusals
import LineRules.Proofs.ReadingBack
import LineRules.Proofs.CutTemplates
import LineRules.Proofs.FieldChains
import LineRules.Proofs.TableShape
import LineRules.Proofs.Outcomes
import LineRules.Proofs.KeyAges
import LineRules.Proofs.KeyOrder
import LineRules.Proofs.Bookkeeping
import LineRules.Proofs.TwoWrites
import LineRules.Proofs.Pointers
import LineRules.Proofs.Replacement
import LineRules.Proofs.SegmentLists
