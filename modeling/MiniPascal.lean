import MiniPascal.Main
import MiniPascal.Folder
import MiniPascal.Proofs.Items
import MiniPascal.Proofs.Grammar.Derivation
import MiniPascal.Proofs.Grammar.Unambiguous
import MiniPascal.Proofs.Grammar.Openings
import MiniPascal.Proofs.Parser.Moves
import MiniPascal.Proofs.Parser.Reading
import MiniPascal.Proofs.Parser.Completeness
import MiniPascal.Proofs.Parser.Soundness
import MiniPascal.Proofs.Parser.Run
import MiniPascal.Proofs.Parser.Acceptance
import MiniPascal.Proofs.Parser.ViablePrefix
import MiniPascal.Proofs.Parser.LexicalFault
import MiniPascal.Proofs.Parser.Nesting
import MiniPascal.Proofs.Evaluation.Recursion
import MiniPascal.Proofs.Evaluation.Exact
import MiniPascal.Proofs.Evaluation.Assignments
import MiniPascal.Proofs.Lexical.Classes
import MiniPascal.Proofs.Lexical.Lexemes
import MiniPascal.Proofs.Lexical.Trivia
import MiniPascal.Proofs.Lexical.Tiling
import MiniPascal.Proofs.Places.Trees
import MiniPascal.Proofs.Places.Parsing
import MiniPascal.Proofs.Places.Running
import MiniPascal.Proofs.Lexical.Respacing
import MiniPascal.Proofs.Lexical.Interleaving
import MiniPascal.Proofs.Parser.Conservation
import MiniPascal.Proofs.Descent.Routines
import MiniPascal.Proofs.Descent.Agreement
import MiniPascal.Proofs.Descent.Statements
import MiniPascal.Proofs.Descent.Depth
import MiniPascal.Proofs.Lexical.Trimming
import MiniPascal.Proofs.Places.Within
import MiniPascal.Proofs.Session.Modes
import MiniPascal.Proofs.Evaluation.Failures
import MiniPascal.Proofs.Parser.Refusals
import MiniPascal.Proofs.Places.Spans
import MiniPascal.Proofs.Places.Culprits
import MiniPascal.Proofs.Lexical.Embedding
import MiniPascal.Proofs.Places.Assigning
import MiniPascal.Proofs.Session.Transcript
import MiniPascal.Proofs.Evaluation.Spines
import MiniPascal.Proofs.Evaluation.Substitution
import MiniPascal.Proofs.Evaluation.Reads
import MiniPascal.Proofs.Evaluation.Coincidence
import MiniPascal.Proofs.Grammar.Names
import MiniPascal.Proofs.Text.Trees
import MiniPascal.Proofs.Text.Lines
import MiniPascal.Proofs.CommandLine.Verbosity
import MiniPascal.Proofs.Text.Decimals
import MiniPascal.Proofs.Text.Decoding
import MiniPascal.Proofs.Parser.Operands
import MiniPascal.Proofs.Text.Literals
import MiniPascal.Proofs.Places.Parentheses
import MiniPascal.Proofs.Session.Jobs
import MiniPascal.Proofs.Grammar.Separators
import MiniPascal.Proofs.Evaluation.Frames
import MiniPascal.Proofs.Grammar.CallDepth
import MiniPascal.Proofs.Evaluation.Environments
import MiniPascal.Proofs.Text.Listing
import MiniPascal.Proofs.Text.Chains
import MiniPascal.Proofs.Places.Columns
import MiniPascal.Proofs.Lexical.Advancing
import MiniPascal.Proofs.Descent.Calls
import MiniPascal.Proofs.Descent.Progress
