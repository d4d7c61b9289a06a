import VideoTerminal.Dispatch.Table

namespace VideoTerminal.Sequence
open Dispatch

def rule? (s : Sequence) : Option Rule := table.find? fun rule => rule.accepts s

-- Mode sequences act on each of their parameters alone: h and l always, s and
-- r only with the query marker, where they save and restore private modes.
-- Other sequences, and those with a single parameter, stay whole.
def singles : Sequence → List Sequence
  | .csi body first =>
    let perParameter :=
      body.command == "h" || body.command == "l" ||
        ((body.command == "s" || body.command == "r") && body.query)
    if perParameter ∧ 2 ≤ body.params.length then
      body.params.map fun param => .csi { body with params := [param] } []
    else [.csi body first]
  | s => [s]

def ownOperations (s : Sequence) : List Operation :=
  s.singles.flatMap fun single => (single.rule?.map (·.operations single)).getD []

mutual
def operations : Sequence → List Operation
  | .csi body first => operationsOfAll first ++ (Sequence.csi body first).ownOperations
  | s => s.ownOperations
def operationsOfAll : List Sequence → List Operation
  | [] => []
  | s :: rest => s.operations ++ operationsOfAll rest
end

end VideoTerminal.Sequence
