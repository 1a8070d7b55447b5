import LabelSelector.Expression.SettingsFile
import LabelSelector.Proofs.Alternatives
import LabelSelector.Proofs.Display
import LabelSelector.Proofs.Edits
import LabelSelector.Proofs.HeadCalls
import LabelSelector.Proofs.Unescaping
import LabelSelector.Proofs.Carets
import LabelSelector.Proofs.Composition
import LabelSelector.Proofs.Logbook
import LabelSelector.Proofs.WholeValue
