import DevTools.Catalogue
import DevTools.Codegen.Builtin
import DevTools.Codegen.Code
import DevTools.Codegen.Correction
import DevTools.Constructor
import DevTools.Session
import DevTools.Proofs.Catalogue
import DevTools.Proofs.Value.Parts
import DevTools.Proofs.Value.Genuine
import DevTools.Proofs.Value.Unmarked
import DevTools.Proofs.Store.Adoption
import DevTools.Proofs.Codec.Reading
import DevTools.Proofs.Codec.Typing
import DevTools.Proofs.Codec.Soundness
import DevTools.Proofs.Codec.Writing
import DevTools.Proofs.Codec.Renewal
import DevTools.Proofs.Codec.RoundTrip
import DevTools.Proofs.Codec.Provenance
import DevTools.Proofs.Codec.Stability
import DevTools.Proofs.Codec.NormalForm
import DevTools.Proofs.Methods
import DevTools.Proofs.Codec.Progress
import DevTools.Proofs.Codec.Requests
import DevTools.Proofs.Session.Interleaving
import DevTools.Proofs.Codegen.Evaluation
import DevTools.Proofs.Codegen.Decoders
import DevTools.Proofs.Codec.Rearrangement
import DevTools.Proofs.Registry.History
import DevTools.Proofs.Codec.Nulls
import DevTools.Proofs.Call.Binding
import DevTools.Proofs.Codegen.Backticks
import DevTools.Proofs.Codec.Refusal
import DevTools.Proofs.Value.Equivalence
import DevTools.Proofs.Codec.Equality
import DevTools.Proofs.Codegen.Corrections
import DevTools.Proofs.Codegen.Docstrings
import DevTools.Proofs.Codegen.References
import DevTools.Proofs.Codegen.TypeHints
import DevTools.Proofs.Codegen.HintedValues
import DevTools.Proofs.Codec.Dictionaries
import DevTools.Proofs.Codec.Descent
import DevTools.Proofs.Number.Decimal
import DevTools.Proofs.Codec.Respelling
import DevTools.Proofs.Store.Unfolding
import DevTools.Proofs.Session.Assignments
import DevTools.Proofs.Text.Lines
import DevTools.Proofs.Codegen.Indentation
import DevTools.Proofs.Codegen.Comments
import DevTools.Proofs.Codegen.Layout
