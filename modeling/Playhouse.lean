import Playhouse.Breakdown
import Playhouse.Category
import Playhouse.CommandLine.Form
import Playhouse.CommandLine.Invocation
import Playhouse.CommandLine.Session
import Playhouse.Desk
import Playhouse.Diagnostic
import Playhouse.Journal
import Playhouse.Ledger
import Playhouse.Lexicon
import Playhouse.Lexicon.Bundled
import Playhouse.Lexicon.PatternReader
import Playhouse.Lexicon.Shelf
import Playhouse.Lexicon.WordList
import Playhouse.Main
import Playhouse.Name
import Playhouse.Node
import Playhouse.Node.Transcript
import Playhouse.Operation
import Playhouse.Pattern
import Playhouse.Pattern.Notation
import Playhouse.Pattern.Phrase
import Playhouse.Pattern.Reader
import Playhouse.Performance.Arithmetic
import Playhouse.Performance.House
import Playhouse.Performance.Input
import Playhouse.Performance.Limit
import Playhouse.Performance.Mishap
import Playhouse.Performance.Output
import Playhouse.Performance.Run
import Playhouse.Play
import Playhouse.Proofs.Agreement
import Playhouse.Proofs.Atomicity
import Playhouse.Proofs.Attempts
import Playhouse.Proofs.Brackets
import Playhouse.Proofs.Bystander
import Playhouse.Proofs.Console
import Playhouse.Proofs.Consultation
import Playhouse.Proofs.Contiguity
import Playhouse.Proofs.Coverage
import Playhouse.Proofs.Cutting
import Playhouse.Proofs.Decimal
import Playhouse.Proofs.Directions
import Playhouse.Proofs.Endings
import Playhouse.Proofs.Exchange
import Playhouse.Proofs.Expansion
import Playhouse.Proofs.Faithfulness
import Playhouse.Proofs.FaultLines
import Playhouse.Proofs.Faults
import Playhouse.Proofs.Fitting
import Playhouse.Proofs.Grammar
import Playhouse.Proofs.Headings
import Playhouse.Proofs.Hosting
import Playhouse.Proofs.Interference
import Playhouse.Proofs.JumpSentences
import Playhouse.Proofs.JumpTargets
import Playhouse.Proofs.Keeping
import Playhouse.Proofs.Labels
import Playhouse.Proofs.LeadingBlanks
import Playhouse.Proofs.LetterCase
import Playhouse.Proofs.LinelessPerformance
import Playhouse.Proofs.LinelessReading
import Playhouse.Proofs.LongestWord
import Playhouse.Proofs.NameSet
import Playhouse.Proofs.Naming
import Playhouse.Proofs.Numbering
import Playhouse.Proofs.Numeral
import Playhouse.Proofs.Openings
import Playhouse.Proofs.Outline
import Playhouse.Proofs.Parts
import Playhouse.Proofs.Passage
import Playhouse.Proofs.Performance
import Playhouse.Proofs.Phrase
import Playhouse.Proofs.PlainPlays
import Playhouse.Proofs.Prologue
import Playhouse.Proofs.ReadingLines
import Playhouse.Proofs.Reckoning
import Playhouse.Proofs.Recognition
import Playhouse.Proofs.Recollection
import Playhouse.Proofs.Rendering
import Playhouse.Proofs.Retelling
import Playhouse.Proofs.RomanNumeral
import Playhouse.Proofs.Segmentation
import Playhouse.Proofs.Sequel
import Playhouse.Proofs.Session
import Playhouse.Proofs.Soundness
import Playhouse.Proofs.Speech
import Playhouse.Proofs.Stage
import Playhouse.Proofs.StepLimit
import Playhouse.Proofs.Termination
import Playhouse.Proofs.TokenLines
import Playhouse.Proofs.Transcripts
import Playhouse.Proofs.Verdict
import Playhouse.Proofs.Warnings
import Playhouse.Proofs.WholeWords
import Playhouse.Proofs.Wording
import Playhouse.Proofs.Words
import Playhouse.Proofs.WrittenRules
import Playhouse.Review
import Playhouse.Script.Consulting
import Playhouse.Script.Course
import Playhouse.Script.Expression
import Playhouse.Script.Fault
import Playhouse.Script.Progress
import Playhouse.Script.Reading
import Playhouse.Script.Sentence
import Playhouse.Script.State
import Playhouse.Service
import Playhouse.Settings
import Playhouse.Text.Blank
import Playhouse.Text.CaseTable
import Playhouse.Text.CodePoints
import Playhouse.Text.Integer
import Playhouse.Text.Interval
import Playhouse.Text.LetterCase
import Playhouse.Text.Printable
import Playhouse.Text.Quoted
import Playhouse.Text.WordCharacter
import Playhouse.Token
import Playhouse.Token.Cutting
import Playhouse.Token.Rule
import Playhouse.Token.Scan
