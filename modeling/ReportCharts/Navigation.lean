import ReportCharts.Json.Record

/-!
Navigation tabs: which tabs belong to the page at a path.

A tab belongs to a page when its address begins with the leading segments of the page's path.
Plugin pages keep one segment more, so that each plugin has a tab of its own.
-/

namespace ReportCharts

structure Navigation where
  rootPath : String := "/telemetryui/"
  pluginMarker : String := "/plugins/"
  activeClass : String := "active"
  tabSelector : String := "ul.nav.nav-tabs li a"
  deriving DecidableEq

namespace Navigation

def segments (separator : Char) : List Char → List (List Char)
  | [] => [[]]
  | c :: rest =>
      if c = separator then [] :: segments separator rest
      else
        match segments separator rest with
        | [] => [[c]]
        | first :: others => (c :: first) :: others

def joined (separator : Char) : List (List Char) → List Char
  | [] => []
  | [only] => only
  | first :: second :: rest => first ++ separator :: joined separator (second :: rest)

def position? (sought : List Char) : List Char → Option Nat
  | [] => if sought.isEmpty then some 0 else none
  | c :: rest =>
      if sought.isPrefixOf (c :: rest) then some 0 else (position? sought rest).map (· + 1)

/-- Leading segments that decide about the tab of a path. -/
def segmentCount (navigation : Navigation) (path : List Char) : Nat :=
  match position? navigation.pluginMarker.toList path with
  | some (_ + 1) => 4
  | _ => 3

/-- The leading segments of a path; the root page has none. -/
def leadingPath? (navigation : Navigation) (path : String) : Option (List Char) :=
  if path = navigation.rootPath then none
  else some (joined '/' ((segments '/' path.toList).take (navigation.segmentCount path.toList)))

/-- Positions of the addresses that begin with a leading path, counted from `index`. -/
def startingWith (leading : List Char) : (index : Nat) → List String → List Nat
  | _, [] => []
  | index, address :: rest =>
      if leading.isPrefixOf address.toList then index :: startingWith leading (index + 1) rest
      else startingWith leading (index + 1) rest

/-- Positions of the tabs of a path; an empty leading path has no tab. -/
def matchingTabs (navigation : Navigation) (path : String) (addresses : List String) : List Nat :=
  match navigation.leadingPath? path with
  | none => []
  | some [] => []
  | some leading => startingWith leading 0 addresses

def firstTab? (navigation : Navigation) (path : String) (addresses : List String) : Option Nat :=
  (navigation.matchingTabs path addresses).head?

def record : Json.Record Navigation Navigation :=
  Json.Record.start Navigation.mk
    |>.required "rootPath" rootPath .string
    |>.required "pluginMarker" pluginMarker .string
    |>.required "activeClass" activeClass .string
    |>.required "navSelector" tabSelector .string

def shape : Json.Shape Navigation := record.shape "NavConfig"

end Navigation

end ReportCharts
