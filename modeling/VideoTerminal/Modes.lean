import VideoTerminal.Operation

namespace VideoTerminal

structure HostModes where
  highlightMouseTracking : Bool := false
  cellMotionMouseTracking : Bool := false
  sgrMouse : Bool := false
  bracketedPaste : Bool := false
  autoRepeatKeys : Bool := true
  smoothScroll : Bool := false
  allow80Or132 : Bool := false
  reverseWrapAround : Bool := false
  deriving DecidableEq, Repr, Inhabited

namespace HostModes

def get (m : HostModes) : HostMode → Bool
  | .highlightMouseTracking => m.highlightMouseTracking
  | .cellMotionMouseTracking => m.cellMotionMouseTracking
  | .sgrMouse => m.sgrMouse
  | .bracketedPaste => m.bracketedPaste
  | .autoRepeatKeys => m.autoRepeatKeys
  | .smoothScroll => m.smoothScroll
  | .allow80Or132 => m.allow80Or132
  | .reverseWrapAround => m.reverseWrapAround

def set (m : HostModes) (mode : HostMode) (on : Bool) : HostModes :=
  match mode with
  | .highlightMouseTracking => { m with highlightMouseTracking := on }
  | .cellMotionMouseTracking => { m with cellMotionMouseTracking := on }
  | .sgrMouse => { m with sgrMouse := on }
  | .bracketedPaste => { m with bracketedPaste := on }
  | .autoRepeatKeys => { m with autoRepeatKeys := on }
  | .smoothScroll => { m with smoothScroll := on }
  | .allow80Or132 => { m with allow80Or132 := on }
  | .reverseWrapAround => { m with reverseWrapAround := on }

theorem get_set (m : HostModes) (mode other : HostMode) (on : Bool) :
    (m.set mode on).get other = if other = mode then on else m.get other := by
  cases mode <;> cases other <;> rfl

end HostModes

structure SavedModes where
  cursorKeys : Option Bool := none
  normalBuffer : Option Bool := none
  highlightMouseTracking : Option Bool := none
  cellMotionMouseTracking : Option Bool := none
  sgrMouse : Option Bool := none
  bracketedPaste : Option Bool := none
  deriving DecidableEq, Repr, Inhabited

namespace SavedModes

def get (m : SavedModes) : SavableMode → Option Bool
  | .cursorKeys => m.cursorKeys
  | .normalBuffer => m.normalBuffer
  | .highlightMouseTracking => m.highlightMouseTracking
  | .cellMotionMouseTracking => m.cellMotionMouseTracking
  | .sgrMouse => m.sgrMouse
  | .bracketedPaste => m.bracketedPaste

def set (m : SavedModes) (mode : SavableMode) (value : Bool) : SavedModes :=
  match mode with
  | .cursorKeys => { m with cursorKeys := some value }
  | .normalBuffer => { m with normalBuffer := some value }
  | .highlightMouseTracking => { m with highlightMouseTracking := some value }
  | .cellMotionMouseTracking => { m with cellMotionMouseTracking := some value }
  | .sgrMouse => { m with sgrMouse := some value }
  | .bracketedPaste => { m with bracketedPaste := some value }

theorem get_set (m : SavedModes) (mode other : SavableMode) (value : Bool) :
    (m.set mode value).get other = if other = mode then some value else m.get other := by
  cases mode <;> cases other <;> rfl

end SavedModes

end VideoTerminal
