namespace HeapQuery.Report

inductive Color
  | red
  | green
  | blue
  | cyan
  deriving DecidableEq, Repr

def Color.digit : Color → String
  | red => "1"
  | green => "2"
  | blue => "4"
  | cyan => "6"

structure Style where
  color : Option Color := none
  bold : Bool := false
  dim : Bool := false
  deriving DecidableEq, Repr

namespace Style

def strong : Style := { bold := true }

def faint : Style := { dim := true }

def colored (color : Color) : Style := { color := some color }

def sign (color : Color) : Style := { color := some color, bold := true }

def isPlain (s : Style) : Bool := s.color.isNone && !s.bold && !s.dim

def opening (s : Style) : String :=
  let color := match s.color with
    | some c => "\x1b[3" ++ c.digit ++ "m"
    | none => ""
  color ++ (if s.bold then "\x1b[1m" else "") ++ (if s.dim then "\x1b[2m" else "")

def apply (s : Style) (enabled : Bool) (text : String) : String :=
  if !enabled || s.isPlain then text else s.opening ++ text ++ "\x1b[0m"

end Style

end HeapQuery.Report
