import StubNames.Consistency
import StubNames.Proofs.Accessors
import StubNames.Proofs.BareClass
import StubNames.Proofs.DeclarationOrder
import StubNames.Proofs.EventLog
import StubNames.Proofs.FirstRefusal
import StubNames.Proofs.Growth
import StubNames.Proofs.Identifier
import StubNames.Proofs.LetterCase
import StubNames.Proofs.ListNesting
import StubNames.Proofs.NestedBraces
import StubNames.Proofs.Padding
import StubNames.Proofs.PrefixIndependence
import StubNames.Proofs.RecordReference
import StubNames.Proofs.Registered
import StubNames.Proofs.SnakeCase
import StubNames.Proofs.TupleKind
import StubNames.Proofs.TupleRefusal
import StubNames.Resolver
