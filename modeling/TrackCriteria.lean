import TrackCriteria.Main
import TrackCriteria.Proofs.Sql.Evaluation
import TrackCriteria.Proofs.Sql.Store
import TrackCriteria.Proofs.Sql.Selection
import TrackCriteria.Proofs.Parser.Grammar
import TrackCriteria.Proofs.Parser.Step
import TrackCriteria.Proofs.Parser.Atom
import TrackCriteria.Proofs.Parser.Soundness
import TrackCriteria.Proofs.Parser.Completeness
import TrackCriteria.Proofs.Text.Digits
import TrackCriteria.Proofs.Text.Run
import TrackCriteria.Proofs.Token.Scan
import TrackCriteria.Proofs.Parser.Source
import TrackCriteria.Proofs.Criteria.DateLiteral
import TrackCriteria.Proofs.Criteria.Canonical
import TrackCriteria.Proofs.Criteria.Chain
import TrackCriteria.Proofs.Token.Seam
import TrackCriteria.Proofs.Criteria.Composition
import TrackCriteria.Proofs.Parser.Blame
import TrackCriteria.Proofs.Parser.ViablePrefix
import TrackCriteria.Proofs.Predicate.LocalDay
import TrackCriteria.Proofs.Sql.Lexeme
import TrackCriteria.Proofs.Sql.Reader
import TrackCriteria.Proofs.Sql.Phrase
import TrackCriteria.Proofs.Sql.ReadBack
import TrackCriteria.Proofs.Criteria.Disjunction
import TrackCriteria.Proofs.Sql.Placeholder
import TrackCriteria.Proofs.Sql.Inlined
import TrackCriteria.Proofs.Sql.Literal
import TrackCriteria.Proofs.Session.Mark
import TrackCriteria.Proofs.Predicate.Age
import TrackCriteria.Proofs.Parser.Level
import TrackCriteria.Proofs.Token.Lexeme
import TrackCriteria.Proofs.Token.Tiling
import TrackCriteria.Proofs.Json.Quoted
import TrackCriteria.Proofs.Json.Document
import TrackCriteria.Proofs.Calendar.Timestamp
import TrackCriteria.Proofs.Json.Reader
import TrackCriteria.Proofs.Predicate.Json
import TrackCriteria.Proofs.Calendar.Instant
import TrackCriteria.Proofs.Calendar.Month
import TrackCriteria.Proofs.Calendar.Zone
import TrackCriteria.Proofs.Predicate.Reading
import TrackCriteria.Proofs.Predicate.Saturation
import TrackCriteria.Proofs.Predicate.Comparison
import TrackCriteria.Proofs.Predicate.AgeOrder
import TrackCriteria.Proofs.Predicate.WallClock
import TrackCriteria.Proofs.Criteria.LiteralForm
import TrackCriteria.Proofs.Predicate.Steadiness
import TrackCriteria.Proofs.Parser.Balance
import TrackCriteria.Proofs.Parser.Break
import TrackCriteria.Proofs.Parser.Parenthesis
import TrackCriteria.Proofs.Parser.History
import TrackCriteria.Proofs.Parser.Respelling
import TrackCriteria.Proofs.Token.Gap
import TrackCriteria.Proofs.Criteria.Layout
import TrackCriteria.Proofs.Text.LetterCase
import TrackCriteria.Proofs.Token.LetterCase
import TrackCriteria.Proofs.Criteria.LetterCase
import TrackCriteria.Proofs.Search.Blank
import TrackCriteria.Proofs.Search.Summary
import TrackCriteria.Proofs.Search.Suggestion
import TrackCriteria.Proofs.Search.Recency
import TrackCriteria.Proofs.Json.Skip
import TrackCriteria.Proofs.Json.Record
import TrackCriteria.Proofs.Schema.Table
import TrackCriteria.Proofs.Schema.Overlay
import TrackCriteria.Proofs.Session.Prompt
