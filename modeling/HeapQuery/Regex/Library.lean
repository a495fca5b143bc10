import HeapQuery.Regex.Meaning

namespace HeapQuery.Regex

/-- What patterns need of a library for regular expressions. Patterns are defined over any library;
what the theory asks of one is in `Library.Semantics.Documented`. -/
structure Library where
  Expression : Type
  compile? : String → Option Expression
  isMatch : Expression → String → Bool

/-- The library that queries run with, whose reader and matcher are those of `Regex`. -/
abbrev standard : Library := ⟨Regex, parse?, isMatch⟩

end HeapQuery.Regex
