import ZigbeeBridge.Data.Entries

/-!
Where the configuration file is, and how messages name the place.
-/
namespace ZigbeeBridge

open Data

/-- Below `XDG_CONFIG_HOME` if that is an absolute path, else below the home directory. -/
def configPath (environment : Entries String) : String :=
  let home := (environment.get? "HOME").getD "."
  match environment.get? "XDG_CONFIG_HOME" with
  | some dir =>
    if dir.toList.head? = some '/' then s!"{dir}/deconz-bridge/config.toml"
    else s!"{home}/.config/deconz-bridge/config.toml"
  | none => s!"{home}/.config/deconz-bridge/config.toml"

def pathParts (path : String) : List String :=
  ((path.toList.splitOn '/').filter fun part => !part.isEmpty && part != ['.']).map String.ofList

/-- The way from one place to another, up and down. -/
def wayBetween : List String → List String → List String
  | a :: as, b :: bs =>
    if a = b then wayBetween as bs else (a :: as).map (fun _ => "..") ++ (b :: bs)
  | as, bs => as.map (fun _ => "..") ++ bs

/-- A path is shown as seen from a directory where that is shorter than in full; both are absolute,
and the root counts as a part of a path in full. -/
def shownPath (directory path : String) : String :=
  let way := wayBetween (pathParts directory) (pathParts path)
  if way.length < (pathParts path).length + 1 then "/".intercalate way else path

end ZigbeeBridge
