/-!
# Why a document cannot be read

A text may break the rules of the language, or it may ask for a value that there is not. The first two errors are about
the document as such; the others come from the value that a scalar was to stand for.
-/

namespace ContractAudit.Yaml

inductive ReadError where
  /-- The text breaks a rule of the language. -/
  | malformed
  /-- No kind of value has this tag. -/
  | unknownTag (tag : String)
  /-- A number, a date or an escape stands for nothing. -/
  | noSuchValue
  /-- A number is too large to be worked with. -/
  | tooLarge
  /-- A truth value is spelled with a word that is none. -/
  | unknownWord
  /-- A number has no characters. -/
  | emptyNumber
  /-- A point in time is not spelled like one. -/
  | notTime
  /-- A collection stands where only a text can be looked at. -/
  | notText
  /-- Collections are nested too deeply. -/
  | tooDeep
deriving DecidableEq, Repr

end ContractAudit.Yaml
