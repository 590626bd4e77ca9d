import DeclScan.Declaration.Basic

/-!
Names extracted from many lines. Names go to one stream and failures to another, in the order of the
lines; the first write that a stream rejects ends the run.
-/

namespace DeclScan

/-- What is looked for on each line. -/
inductive Mode where
  | typeNames
  | variableNames
  | declaredNames
deriving DecidableEq

namespace Mode

def all : List Mode := [typeNames, variableNames, declaredNames]

/-- The word that selects the mode. -/
def command : Mode → String
  | typeNames => "type"
  | variableNames => "var"
  | declaredNames => "decl"

/-- The mode that `word` selects. -/
def ofCommand? (word : String) : Option Mode := all.find? fun mode => mode.command == word

/-- The name that `line` declares. -/
def extract (mode : Mode) (line : String) : Except ParseError String :=
  match mode with
  | typeNames => (TypeDeclaration.parse line).map TypeDeclaration.name
  | variableNames => (VariableDeclaration.parse line).map VariableDeclaration.name
  | declaredNames => (Declaration.parse line).map Declaration.name

end Mode

/-- The streams of a run: names, and failures. -/
inductive Stream where
  | out
  | err
deriving DecidableEq

/-- Why a stream rejects a write. -/
inductive WriteFault where
  | noSpace
  | brokenPipe
  | other (message : String)
deriving DecidableEq

def WriteFault.message : WriteFault → String
  | noSpace => "No space left on device (os error 28)"
  | brokenPipe => "Broken pipe (os error 32)"
  | other message => message

/-- What one line gives. Rows count from one. -/
inductive Entry where
  | name (text : String)
  | failure (row : Nat) (error : ParseError)
deriving DecidableEq

namespace Entry

/-- What `line` gives as row `row`. -/
def ofLine (mode : Mode) (line : String) (row : Nat) : Entry :=
  match mode.extract line with
  | .ok text => name text
  | .error error => failure row error

def stream : Entry → Stream
  | name _ => .out
  | failure .. => .err

/-- The entry as a line of its stream. -/
def render : Entry → String
  | name text => text ++ "\n"
  | failure row error => "line " ++ row.repr ++ ": " ++ error.message ++ "\n"

end Entry

/-- How many lines gave a name, and how many failed. -/
structure Summary where
  extracted : Nat := 0
  failed : Nat := 0
deriving DecidableEq

def Summary.isSuccess (summary : Summary) : Bool := summary.failed == 0

/-- What the streams have received so far. -/
structure Report where
  out : String := ""
  err : String := ""
  summary : Summary := {}
deriving DecidableEq

namespace Report

/-- The report after one more entry is written. -/
def write (report : Report) (entry : Entry) : Report :=
  match entry.stream with
  | .out => { report with
      out := report.out ++ entry.render
      summary.extracted := report.summary.extracted + 1 }
  | .err => { report with
      err := report.err ++ entry.render
      summary.failed := report.summary.failed + 1 }

/-- Writes the entries in order, up to the first whose stream has a fault. -/
def deliver (fault : Stream → Option WriteFault) :
    List Entry → Report → Report × Option WriteFault
  | [], report => (report, none)
  | entry :: rest, report =>
    match fault entry.stream with
    | some rejected => (report, some rejected)
    | none => deliver fault rest (report.write entry)

end Report

/-- What each of the lines gives, in order. -/
def entries (mode : Mode) (lines : List String) : List Entry :=
  (lines.zipIdx 1).map fun (line, row) => Entry.ofLine mode line row

/-- Extracts a name from each line and reports to two streams, of which `fault` tells whether they
reject their writes. -/
def extractLines (mode : Mode) (lines : List String) (fault : Stream → Option WriteFault) :
    Report × Option WriteFault :=
  Report.deliver fault (entries mode lines) {}

end DeclScan
