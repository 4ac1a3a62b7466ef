import AbcMetric.Main
import AbcMetric.Proofs.Collecting
import AbcMetric.Proofs.PatternTotals
import AbcMetric.Proofs.Placement
import AbcMetric.Proofs.Runs
import AbcMetric.Proofs.Spellings
import AbcMetric.Proofs.Rankings
import AbcMetric.Proofs.Documents
import AbcMetric.Proofs.Relocation
import AbcMetric.Proofs.Translation
import AbcMetric.Proofs.Charges
import AbcMetric.Proofs.Chains
import AbcMetric.Proofs.ElseLines
import AbcMetric.Proofs.Records
import AbcMetric.Proofs.Sums
import AbcMetric.Proofs.Columns
import AbcMetric.Proofs.EffectivePatterns
import AbcMetric.Proofs.BuiltInExclusions
import AbcMetric.Proofs.Origins
import AbcMetric.Proofs.Coloring
