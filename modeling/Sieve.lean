import Sieve.Catalog.Json
import Sieve.Catalog.Mapping
import Sieve.Main
import Sieve.Predicate.Json
import Sieve.Proofs.Calendar.Forms
import Sieve.Proofs.Text.Integers
import Sieve.Proofs.Uuid
import Sieve.Store.Basic
import Sieve.Proofs.Datum.Typed
import Sieve.Proofs.Catalog.Valid
import Sieve.Proofs.Outcome
import Sieve.Proofs.Store.Run
import Sieve.Proofs.Filter.Access
import Sieve.Proofs.Predicate.Normal
import Sieve.Proofs.Datum.Kept
import Sieve.Proofs.Filter.Reading
import Sieve.Proofs.Filter.Typed
import Sieve.Proofs.Filter.Meaning
import Sieve.Proofs.Json.Printed
import Sieve.Proofs.Store.UtcGuard
import Sieve.Proofs.Filter.Independence
import Sieve.Proofs.Filter.Decomposition
import Sieve.Proofs.Filter.Bare
import Sieve.Proofs.Sql.Quote
import Sieve.Proofs.Store.Log
import Sieve.Proofs.Sql.Pieces
import Sieve.Proofs.Sql.Unambiguous
import Sieve.Proofs.Predicate.Bindings
import Sieve.Proofs.Sql.Placeholders
import Sieve.Proofs.Sql.Names
import Sieve.Proofs.Predicate.Form
import Sieve.Proofs.Store.Distinct
import Sieve.Proofs.Filter.Spelling
import Sieve.Proofs.Predicate.Verdict
import Sieve.Proofs.Filter.Substring
import Sieve.Proofs.Predicate.Json
import Sieve.Proofs.Pattern.Pieces
import Sieve.Proofs.Predicate.FirstFault
import Sieve.Proofs.Calendar.Offsets
import Sieve.Proofs.Filter.IgnoringCase
import Sieve.Proofs.Catalog.Accepted
import Sieve.Proofs.Filter.Laws
import Sieve.Proofs.Sql.Restricted
import Sieve.Proofs.Datum.Canonical
