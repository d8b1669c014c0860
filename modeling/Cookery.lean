import Cookery.Main
import Cookery.Proofs.Distinct
import Cookery.Proofs.Conformance
import Cookery.Proofs.Validity
import Cookery.Proofs.TypeText
import Cookery.Proofs.Generation
import Cookery.Proofs.Assembly
import Cookery.Proofs.AllOrNothing
import Cookery.Proofs.Rechecked
import Cookery.Proofs.EnumReferences
import Cookery.Proofs.Overloads
import Cookery.Proofs.Extension
import Cookery.Proofs.DeclarationOrder
import Cookery.Proofs.TypeNames
import Cookery.Proofs.DistinctFiles
import Cookery.Proofs.FieldSupply
import Cookery.Proofs.JsonRoundTrip
import Cookery.Proofs.Violations
import Cookery.Proofs.DryRun
import Cookery.Proofs.LiteralReading
import Cookery.Proofs.RepeatedParams
import Cookery.Proofs.VarargExposure
import Cookery.Proofs.SignatureText
import Cookery.Proofs.UnambiguousLiterals
import Cookery.Proofs.VarargErasure
import Cookery.Proofs.LiteralCheck
import Cookery.Proofs.Inventory
import Cookery.Proofs.LegalIdentifiers
import Cookery.Proofs.Confinement
import Cookery.Proofs.ReservedWords
import Cookery.Proofs.BindingSequence
import Cookery.Proofs.WordBoundaries
import Cookery.Proofs.JsonReadBack
import Cookery.Proofs.RecordText
import Cookery.Proofs.WriteHistory
