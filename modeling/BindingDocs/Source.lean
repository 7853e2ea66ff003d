import BindingDocs.Text.Case

/-!
# Sources

The files that are read, in the order in which they are read, and the scope that each belongs to.
-/

namespace BindingDocs

/-- A file that binds functions or dispatches events. -/
structure Source where
  /-- The path below the source root. -/
  path : Text
  scope : Text
  /-- The token that marks a receiver of this scope, where it is not the scope itself. -/
  token? : Option Text
  deriving DecidableEq, Repr

namespace Source

/-- The scope of functions that live in the script's own name space. -/
def generalScope : Text := "General".toList

/-- The scope of the file that dispatches events. -/
def eventScope : Text := "Event".toList

/-- The token that marks a receiver of this scope: the given one unless it is empty, else the scope in lower
case. -/
def token (s : Source) : Text :=
  match s.token? with
  | some token => if token = [] then Text.lowercase s.scope else token
  | none => Text.lowercase s.scope

def file (path scope : String) (token? : Option String) : Source :=
  ⟨path.toList, scope.toList, token?.map String.toList⟩

/-- Every source. -/
def all : List Source := [
  file "zone/embparser_api.cpp" "General" (some "quest"),
  file "zone/perl_client.cpp" "Client" none,
  file "zone/perl_doors.cpp" "Doors" (some "door"),
  file "zone/perl_entity.cpp" "EntityList" none,
  file "zone/perl_groups.cpp" "Group" none,
  file "zone/perl_hateentry.cpp" "HateEntry" none,
  file "zone/perl_mob.cpp" "Mob" none,
  file "zone/perl_npc.cpp" "NPC" none,
  file "zone/perl_object.cpp" "Object" none,
  file "zone/perl_perlpacket.cpp" "PerlPacket" (some "packet"),
  file "zone/perl_player_corpse.cpp" "Corpse" none,
  file "zone/perl_QuestItem.cpp" "QuestItem" none,
  file "zone/perl_raids.cpp" "Raid" none,
  file "zone/embparser.cpp" "Event" none]

/-- The sources to read; without events the file that dispatches them is left out. -/
def selected (events : Bool) : List Source := all.filter fun s => events || s.scope != eventScope

end Source

end BindingDocs
