import Provision.Text.Quoted

/-!
# Quoting for the shell

A word that a shell could take for more than itself is put between single
quotes. A single quote within it ends that stretch, stands between double quotes,
and starts a new one.
-/

namespace Provision.Shell

open Text (singleQuote doubleQuote)

/-- Characters that mean nothing but themselves to a shell. -/
def isPlain (c : Char) : Bool :=
  c.isAlphanum || c = '_' || c = '@' || c = '%' || c = '+' || c = '=' || c = ':' || c = ',' ||
    c = '.' || c = '/' || c = '-'

def quoteChar (c : Char) : List Char :=
  if c = singleQuote then [singleQuote, doubleQuote, singleQuote, doubleQuote, singleQuote]
  else [c]

def quoteChars (cs : List Char) : List Char :=
  if cs ≠ [] ∧ cs.all isPlain then cs
  else singleQuote :: (cs.flatMap quoteChar ++ [singleQuote])

def quote (s : String) : String := String.ofList (quoteChars s.toList)

end Provision.Shell
