import GrammarQueries.Session
import GrammarQueries.Grammar.Notation
import GrammarQueries.Proofs.Search
import GrammarQueries.Proofs.Utf8
import GrammarQueries.Proofs.Lookup
import GrammarQueries.Proofs.Bundle
import GrammarQueries.Proofs.Loading
import GrammarQueries.Proofs.Edit
import GrammarQueries.Proofs.Move
import GrammarQueries.Proofs.History
import GrammarQueries.Proofs.Compatibility
import GrammarQueries.Proofs.Inquiry
import GrammarQueries.Proofs.Walk
import GrammarQueries.Proofs.Consultation
import GrammarQueries.Proofs.Environment
import GrammarQueries.Proofs.Component
import GrammarQueries.Proofs.Spelling
import GrammarQueries.Proofs.Outcomes
import GrammarQueries.Proofs.Creation
import GrammarQueries.Proofs.Symbol
import GrammarQueries.Proofs.Position
import GrammarQueries.Proofs.Malformed
import GrammarQueries.Proofs.Executable
import GrammarQueries.Proofs.Diagnosis
import GrammarQueries.Proofs.Field
import GrammarQueries.Proofs.Identity
