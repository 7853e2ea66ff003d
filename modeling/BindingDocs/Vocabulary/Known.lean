import BindingDocs.Vocabulary

/-!
# The known vocabulary

The tables that the program comes with.
-/

namespace BindingDocs.Vocabulary

/-- Keys given as strings. -/
def keyed {α : Type} (table : List (String × α)) : List (Text × α) := table.map fun p => (p.1.toList, p.2)

/-- Keys and values given as strings. -/
def worded (table : List (String × String)) : List (Text × Text) :=
  table.map fun p => (p.1.toList, p.2.toList)

/-- Calls that put a return value on the stack. -/
def knownReturnMarkers : List (Text × ValueType) := keyed [
    ("boolSV(", .bool), ("PUSHu(", .uint), ("PUSHi(", .int), ("sv_setpv(", .string), ("PUSHn(", .double)]

/-- Verbs by the stem that a name begins with. -/
def knownVerbs : List (Text × Text) := worded [
    ("get", "gets"), ("send", "sends"), ("set", "sets"), ("teleport", "teleports"), ("is", "is"),
    ("play", "plays"), ("add", "adds")]

/-- Nouns by a part of a name. -/
def knownNouns : List (Text × Text) := worded [
    ("taskid", "[task](Task)"), ("account_id", "[account](Task)"), ("accountid", "[account](Task)")]

/-- Types of arguments by name. -/
def knownArgumentTypes : List (Text × ValueType) := keyed [
    ("activity_id", .uint), ("alt_mode", .bool), ("anim_num", .int), ("best_z", .float), ("buttons", .int),
    ("channel_id", .int), ("char_id", .int), ("charges", .int), ("class_id", .int),
    ("client_name", .string), ("color", .int), ("color_id", .int), ("condition_id", .int), ("copper", .int),
    ("count", .int), ("debug_level", .int), ("decay_time", .int), ("dest_heading", .float),
    ("dest_x", .float), ("dest_y", .float), ("dest_z", .float), ("in_lastname", .string),
    ("distance", .int), ("door_id", .int), ("value", .int), ("cost", .int), ("slot", .int), ("type", .int),
    ("iSendToSelf", .int), ("iFromDB", .bool), ("duration", .int), ("effect_id", .int),
    ("elite_material_id", .int), ("enforce_level_requirement", .bool), ("explore_id", .uint),
    ("faction_value", .int), ("fade_in", .int), ("fade_out", .int), ("fadeout", .uint),
    ("firstname", .string), ("format", .string), ("from", .string), ("gender_id", .int), ("gold", .int),
    ("grid_id", .int), ("guild_rank_id", .int), ("heading", .float), ("hero_forge_model_id", .int),
    ("ignore_quest_update", .bool), ("instance_id", .int), ("int_unused", .int), ("int_value", .int),
    ("is_enabled", .bool), ("is_strict", .bool), ("item_id", .int), ("key", .string), ("language_id", .int),
    ("lastname", .string), ("leader_name", .string), ("level", .int), ("link_name", .string),
    ("macro_id", .int), ("max_level", .int), ("max_x", .float), ("max_y", .float), ("max_z", .float),
    ("message", .string), ("milliseconds", .int), ("min_level", .int), ("min_x", .float), ("min_y", .float),
    ("min_z", .float), ("name", .string), ("new_hour", .int), ("new_min", .int), ("node1", .int),
    ("node2", .int), ("npc_id", .int), ("npc_type_id", .int), ("object_type", .int), ("options", .int),
    ("platinum", .int), ("popup_id", .int), ("priority", .int), ("quantity", .int), ("race_id", .int),
    ("remove_item", .bool), ("requested_id", .int), ("reset_base", .bool), ("saveguard", .bool),
    ("seconds", .int), ("send_to_world", .bool), ("signal_id", .int), ("silent", .bool), ("silver", .int),
    ("size", .int), ("spell_id", .int), ("stat_id", .int), ("str_value", .string), ("subject", .string),
    ("target_enum", .string), ("target_id", .int), ("task", .int), ("task_id", .uint), ("task_id1", .int),
    ("number", .int), ("task_id10", .int), ("task_id2", .int), ("task_set", .int), ("taskid", .int),
    ("taskid1", .int), ("taskid2", .int), ("taskid3", .int), ("taskid4", .int), ("teleport", .int),
    ("temp", .int), ("texture_id", .int), ("theme_id", .int), ("update_world", .int),
    ("updated_time_till_repop", .uint), ("version", .int), ("wait_ms", .int), ("window_title", .string),
    ("x", .float), ("y", .float), ("z", .float), ("zone_id", .int), ("zone_short", .string),
    ("task_id%i", .int)]

/-- Types of exported variables by name. -/
def knownEventTypes : List (Text × ValueType) := keyed [
    ("activity_id", .int), ("caster_id", .int), ("charid", .int), ("class", .int), ("clicker_id", .int),
    ("combat_state", .int), ("copper", .int), ("corpse", .int), ("data", .string), ("donecount", .int),
    ("doorid", .int), ("env_damage", .int), ("env_damage_type", .int), ("env_final_damage", .int),
    ("faction", .int), ("fished_item", .int), ("foraged_item", .int), ("gold", .int), ("grouped", .int),
    ("h", .int), ("hate_state", .int), ("hpevent", .int), ("hpratio", .int), ("inchpevent", .int),
    ("instanceid", .int), ("instanceversion", .int), ("itemid", .int), ("itemname", .string),
    ("killed", .int), ("killed_npc_id", .int), ("killer_damage", .int), ("killer_id", .int),
    ("killer_skill", .int), ("killer_spell", .int), ("langid", .int), ("looted_charges", .int),
    ("looted_id", .int), ("mlevel", .int), ("mname", .string), ("mobid", .int), ("name", .string),
    ("objectid", .int), ("option", .int), ("picked_up_entity_id", .int), ("picked_up_id", .int),
    ("platinum", .int), ("popupid", .int), ("quantity", .int), ("race", .int), ("raided", .int),
    ("recipe_id", .int), ("recipe_name", .string), ("resurrect", .int), ("signal", .int), ("silver", .int),
    ("skill_id", .int), ("skill_level", .int), ("slotid", .int), ("spawned_entity_id", .int),
    ("spawned_npc_id", .int), ("spell_id", .int), ("status", .int), ("target_zone_id", .int),
    ("targetid", .int), ("targetname", .string), ("task_id", .int), ("text", .string), ("timer", .int),
    ("uguild_id", .int), ("uguildrank", .int), ("ulevel", .int), ("userid", .int), ("version", .int),
    ("wp", .int), ("x", .int), ("y", .int), ("z", .int), ("zonehour", .int), ("zoneid", .int),
    ("zoneln", .string), ("zonemin", .int), ("zonesn", .string), ("zonetime", .int), ("zoneweather", .int)]

/-- The vocabulary that the program comes with. -/
def known : Vocabulary where
  returnMarkers := knownReturnMarkers
  verbs := knownVerbs
  nouns := knownNouns
  argumentTypes := knownArgumentTypes
  eventTypes := knownEventTypes

end BindingDocs.Vocabulary
