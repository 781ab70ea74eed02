import TypingSession.Fixture.Directory
import TypingSession.Fixture.Writer
import TypingSession.Main
import TypingSession.Proofs.Session.Minting
import TypingSession.Proofs.Session.Reuse
import TypingSession.Proofs.Session.Freshness
import TypingSession.Proofs.Session.Confinement
import TypingSession.Proofs.Session.Framing
import TypingSession.Proofs.Session.Lexical.Agreement
import TypingSession.Proofs.Fixture.Grammar
import TypingSession.Proofs.Fixture.RoundTrip
import TypingSession.Proofs.Fixture.Concatenation
import TypingSession.Proofs.Fixture.Layout
import TypingSession.Proofs.Fixture.Paths
import TypingSession.Proofs.CommandLine.Rendering
import TypingSession.Proofs.CommandLine.Reading
import TypingSession.Proofs.Session.Detour
import TypingSession.Proofs.Session.Standalone
import TypingSession.Proofs.Session.DictionaryNames
import TypingSession.Proofs.Failure.Positions
import TypingSession.Proofs.Failure.Equality
import TypingSession.Proofs.Unification.Composition
import TypingSession.Proofs.Session.Nesting
import TypingSession.Proofs.Unification.Idempotence
import TypingSession.Proofs.WrittenForm.Value
import TypingSession.Proofs.WrittenForm.ModuleName
import TypingSession.Proofs.Unification.Unknowns
