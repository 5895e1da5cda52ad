import ContractAudit.Outline

/-!
# Outlines of Rust sources
-/

namespace ContractAudit.Outline.Rust

open Text Pattern

def moduleHeader : Pattern := edge ++ lit "mod" ++ gap ++ capture 1 word

def visibility : Pattern := maybe (lit "pub" ++ gap)

def function : Pattern := visibility ++ lit "fn" ++ gap ++ capture 1 word ++ blanks ++ oneOf "<("

def struct : Pattern := visibility ++ lit "struct" ++ gap ++ capture 1 word

def outline (source : List Char) : Outline where
  language := "rust"
  modules := names moduleHeader source
  functions := namedFunctions function source
  structs := names struct source

end ContractAudit.Outline.Rust
