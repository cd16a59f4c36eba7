import ZigbeeBridge.Cli.Error
import ZigbeeBridge.Cli.Order
import ZigbeeBridge.Json.Printer
import ZigbeeBridge.Yaml.Printer

/-!
What a command line comes to: what is printed, and an error if there is one. A value is printed in
the format that the options name; how it looks as a table is up to the kind of value.
-/
namespace ZigbeeBridge.Cli

open Data

structure Outcome where
  output : String
  error : Option Error
  deriving DecidableEq, Repr

namespace Outcome

def exitCode (o : Outcome) : UInt8 := (o.error.map Error.exitCode).getD 0

def failed (e : Error) : Outcome := ⟨"", some e⟩

/-- A text on lines of its own, unless the user wants none. -/
def printed (options : Options) (text : String) : Outcome :=
  ⟨if options.quiet || text.isEmpty then "" else text ++ "\n", none⟩

end Outcome

def Format.render (format : Format) (asTable : String) (v : Value) : String :=
  match format with
  | table => asTable
  | json => Json.pretty v
  | jsonCompact => Json.compact v
  | yaml => Yaml.print v

def printValue (options : Options) (asTable : String) (v : Value) : Outcome :=
  .printed options (options.format.render asTable v)

end ZigbeeBridge.Cli
