import VideoTerminal.Operation

namespace VideoTerminal

inductive ParamCount where
  | any
  | exactly (count : Nat)
  | exactlyOrNone (count : Nat)
  | atLeast (count : Nat)
  deriving DecidableEq, Repr, Inhabited

def ParamCount.accepts (expected : ParamCount) (count : Nat) : Bool :=
  match expected with
  | .any => true
  | .exactly n => decide (count = n)
  | .exactlyOrNone n => decide (count = n ∨ count = 0)
  | .atLeast n => decide (n ≤ count)

-- A kind of sequence and the operations it stands for. An empty command and an
-- empty list of first parameters accept anything; a first parameter that is not
-- there counts as zero.
structure Rule where
  description : String
  kind : Sequence.Kind
  command : String
  params : ParamCount := .any
  markers : Sequence.Markers := {}
  firstParam : List Nat := []
  operations : Sequence → List Operation

namespace Rule

def acceptsCommand (r : Rule) (s : Sequence) : Bool :=
  r.command == "" || (s.command.any fun command => command.matches r.command)

def acceptsFirstParam (r : Rule) (s : Sequence) : Bool :=
  r.firstParam.isEmpty || r.firstParam.contains (s.params.headD 0)

def accepts (r : Rule) (s : Sequence) : Bool :=
  decide (r.kind = s.kind) && r.acceptsCommand s && decide (s.markers = r.markers) &&
    !s.hasPrivateParams && r.params.accepts s.params.length && r.acceptsFirstParam s

def exactly (r : Rule) (count : Nat) : Rule := { r with params := .exactly count }

def exactlyOrNone (r : Rule) (count : Nat) : Rule := { r with params := .exactlyOrNone count }

def atLeast (r : Rule) (count : Nat) : Rule := { r with params := .atLeast count }

def onFirst (r : Rule) (values : List Nat) : Rule := { r with firstParam := values }

def query (r : Rule) : Rule := { r with markers := { r.markers with query := true } }

def send (r : Rule) : Rule := { r with markers := { r.markers with send := true } }

def bang (r : Rule) : Rule := { r with markers := { r.markers with bang := true } }

section Asks

variable (r : Rule) (count : Nat) (values : List Nat)

@[simp] theorem operations_exactly : (r.exactly count).operations = r.operations := rfl
@[simp] theorem operations_exactlyOrNone :
    (r.exactlyOrNone count).operations = r.operations := rfl
@[simp] theorem operations_atLeast : (r.atLeast count).operations = r.operations := rfl
@[simp] theorem operations_onFirst : (r.onFirst values).operations = r.operations := rfl
@[simp] theorem operations_query : r.query.operations = r.operations := rfl
@[simp] theorem operations_send : r.send.operations = r.operations := rfl
@[simp] theorem operations_bang : r.bang.operations = r.operations := rfl

end Asks

end Rule

end VideoTerminal
