import LineShell.Script.Octets

/-! # Options

What `set` turns on and off.  An option has a name and mostly a letter; the options that
are on are known by their names.
-/
namespace LineShell.Script

/-- The options that are on. -/
structure Options where
  names : List String := []
  deriving DecidableEq, Repr

namespace Options

/-- The options in the order in which they are listed. -/
def table : List (String × Option Char) :=
  [("errexit", some 'e'), ("noglob", some 'f'), ("ignoreeof", some 'I'),
   ("interactive", some 'i'), ("monitor", some 'm'), ("noexec", some 'n'), ("stdin", some 's'),
   ("xtrace", some 'x'), ("verbose", some 'v'), ("vi", some 'V'), ("emacs", some 'E'),
   ("noclobber", some 'C'), ("allexport", some 'a'), ("notify", some 'b'),
   ("nounset", some 'u'), ("privileged", some 'p'), ("nolog", none), ("debug", none)]

def isOn (o : Options) (name : String) : Bool := o.names.contains name

/-- Turns an option on or off. -/
def turn (o : Options) (on : Bool) (name : String) : Options :=
  ⟨if on then name :: o.names.erase name else o.names.erase name⟩

/-- The name of the option with a letter. -/
def ofLetter? (c : Char) : Option String := (table.find? fun e => e.2 == some c).map Prod.fst

/-- The option with a name. -/
def ofName? (name : Octets) : Option String :=
  (table.find? fun e => e.1.toList == name).map Prod.fst

/-- The letters of the options that are on, the last of the list first. -/
def letters (o : Options) : Octets :=
  (table.filterMap fun (name, letter) => if o.isOn name then letter else none).reverse

/-- A listing for the reader. -/
def listing (o : Options) : Octets :=
  "Current option settings\n".toList ++ table.flatMap fun (name, _) =>
    name.toList ++ List.replicate (16 - name.length) ' ' ++
      (if o.isOn name then "on\n" else "off\n").toList

/-- A listing that can be run as a script. -/
def commands (o : Options) : Octets :=
  table.flatMap fun (name, _) =>
    "set ".toList ++ (if o.isOn name then "-o " else "+o ").toList ++ name.toList ++ ['\n']

end Options
end LineShell.Script
