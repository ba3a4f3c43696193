import TextScan.Config.Environment
import TextScan.Config.File
import TextScan.ErrorParts
import TextScan.Scanner.Session
import TextScan.Proofs.Compare.Matching
import TextScan.Proofs.Scanner.Operations
import TextScan.Proofs.Scanner.Bounds
import TextScan.Proofs.Scanner.Run
import TextScan.Proofs.CodeUnits
import TextScan.Proofs.Scanner.Resume
import TextScan.Proofs.Scanner.Passage
import TextScan.Proofs.Scanner.Failure
import TextScan.Proofs.Scanner.Conversion
import TextScan.Proofs.Compare.Respelling
import TextScan.Proofs.Compare.Spelling
import TextScan.Proofs.Compare.Decomposed
import TextScan.Proofs.Scanner.Progress
import TextScan.Proofs.Numeral.Integer
import TextScan.Proofs.Config.Table
import TextScan.Proofs.Compare.Absorption
import TextScan.Proofs.Config.Environment
import TextScan.Proofs.Compare.AbsorptionCheck
import TextScan.Proofs.Compare.Inclusion
import TextScan.Proofs.Scanner.Exactness
import TextScan.Proofs.Scanner.Width
import TextScan.Proofs.Scanner.Decimal
import TextScan.Proofs.Compare.Opening
import TextScan.Proofs.Compare.MatchEnd
import TextScan.Proofs.Compare.Comparison
import TextScan.Proofs.Scanner.Pieces
import TextScan.Proofs.Compare.Insertion
import TextScan.Proofs.Compare.Ascii
import TextScan.Proofs.Unicode.CanonicalOrder
import TextScan.Proofs.Unicode.Settled
import TextScan.Proofs.Unicode.Recomposition
import TextScan.Proofs.Compare.Composed
import TextScan.Proofs.Scanner.Lookahead
import TextScan.Proofs.Config.OptionNames
import TextScan.Proofs.Scanner.NumberStart
import TextScan.Proofs.Compare.Idempotence
import TextScan.Proofs.Scanner.LongestRun
