import Formula.Measured
import Formula.Workspace
import Formula.Proofs.Grammar
import Formula.Proofs.Unambiguous
import Formula.Proofs.Nesting
import Formula.Proofs.Lexemes
import Formula.Proofs.TokenStream
import Formula.Proofs.Prospects
import Formula.Proofs.Openings
import Formula.Proofs.ParserSteps
import Formula.Proofs.PhraseReading
import Formula.Proofs.Verdict
import Formula.Proofs.Acceptance
import Formula.Proofs.EarliestFault
import Formula.Proofs.NestingLimit
import Formula.Proofs.Numerals
import Formula.Proofs.WellFormed
import Formula.Proofs.EvaluationFaults
import Formula.Proofs.RaisedLimit
import Formula.Proofs.NameTokens
import Formula.Proofs.ArgumentRows
import Formula.Proofs.CallText
import Formula.Proofs.Histories
import Formula.Proofs.Places
import Formula.Proofs.Traversal
import Formula.Proofs.Comparison
import Formula.Proofs.Recording
import Formula.Proofs.Transparency
import Formula.Proofs.EvaluationOrder
import Formula.Proofs.LongestLexeme
import Formula.Proofs.LexicalGrammar
import Formula.Proofs.LexemeReading
import Formula.Proofs.LowerCasing
import Formula.Proofs.LoweredNames
import Formula.Proofs.NameDependence
import Formula.Proofs.Filling
import Formula.Proofs.Layouts
import Formula.Proofs.LexerRuns
import Formula.Proofs.FilledText
import Formula.Proofs.Stateless
import Formula.Proofs.FilledEvaluation
import Formula.Proofs.Grafting
import Formula.Proofs.Erasure
import Formula.Proofs.Terms
import Formula.Proofs.WrittenText
import Formula.Proofs.Respelling
import Formula.Proofs.RespelledText
import Formula.Proofs.Rebracketing
import Formula.Proofs.TokenSpans
import Formula.Proofs.DisplayedTokens
import Formula.Proofs.ParallelReading
import Formula.Proofs.MovedReading
import Formula.Proofs.LevelCount
import Formula.Proofs.ParserCalls
import Formula.Proofs.LexicalFailures
import Formula.Proofs.OperandAccess
import Formula.Proofs.StandardCalls
import Formula.Proofs.DayNumbers
import Formula.Proofs.CalendarDates
import Formula.Proofs.TimeSpans
import Formula.Proofs.ArgumentOrder
import Formula.Proofs.DoubleValues
import Formula.Proofs.NearestIntegers
import Formula.Proofs.IntegerDivision
import Formula.Proofs.DoubleOrder
import Formula.Proofs.Extremes
import Formula.Proofs.SelfComparison
import Formula.Proofs.ListedNames
import Formula.Proofs.LoweredText
import Formula.Proofs.ListedBindings
import Formula.Proofs.NumberBoundaries
import Formula.Proofs.ClosestMagnitudes
import Formula.Proofs.DecimalRounding
import Formula.Proofs.ClosestDoubles
import Formula.Proofs.NumeralValues
import Formula.Proofs.WrittenDoubles
import Formula.Proofs.DisplayedDoubles
import Formula.Proofs.DateTexts
import Formula.Proofs.JsonTexts
import Formula.Proofs.Visits
import Formula.Proofs.Heights
