import TypedQuery.Document.Query
import TypedQuery.Json.Reader
import TypedQuery.Proofs.ArgumentSlots
import TypedQuery.Proofs.Calls.Statements
import TypedQuery.Proofs.Choices
import TypedQuery.Proofs.Columns
import TypedQuery.Proofs.Contexts.Visits
import TypedQuery.Proofs.CountHeads
import TypedQuery.Proofs.EntityFields
import TypedQuery.Proofs.EntityIdentifiers
import TypedQuery.Proofs.Errors.Statements
import TypedQuery.Proofs.Filters.Collections
import TypedQuery.Proofs.Filters.Negations
import TypedQuery.Proofs.Filters.Operators
import TypedQuery.Proofs.Filters.SortOrder
import TypedQuery.Proofs.Identifiers
import TypedQuery.Proofs.IntegerCasts
import TypedQuery.Proofs.JoinConditions
import TypedQuery.Proofs.Labels.Sharing
import TypedQuery.Proofs.Memberships
import TypedQuery.Proofs.Pagination.RowOrder
import TypedQuery.Proofs.Pagination.SubQueries
import TypedQuery.Proofs.Pagination.Windows
import TypedQuery.Proofs.Patterns.Agreement
import TypedQuery.Proofs.Patterns.IgnoringCase
import TypedQuery.Proofs.Patterns.RegexTests
import TypedQuery.Proofs.Projections.Statements
import TypedQuery.Proofs.Reading.ArithmeticTexts
