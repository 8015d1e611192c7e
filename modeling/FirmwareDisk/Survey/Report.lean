import FirmwareDisk.Backend.Basic
import FirmwareDisk.Geometry.Basic
import FirmwareDisk.Raid.Member
import FirmwareDisk.Text.JsonValue

set_option autoImplicit false

namespace FirmwareDisk.Survey

/-- What was found out about a device that was opened. -/
structure DeviceFacts where
  drive : DriveNumber
  geometry : Option Geometry
  hasPartitions : Bool
  raid : Option Raid.ArrayMember

/-- What a survey says about a device. -/
structure DeviceEntry where
  name : String
  facts : Option DeviceFacts := none
  error : Option String := none

def DeviceEntry.geometry (report : DeviceEntry) : Option Geometry :=
  report.facts.bind DeviceFacts.geometry

/-- What a survey says about all devices, in the order of their enumeration. -/
structure Report where
  devices : List DeviceEntry

namespace Report

def size? (record : Geometry) : Option Nat :=
  if record.totalSectors = unknownTotal then none else some record.totalSectors

/-- The line of a device with a geometry. -/
def deviceLine (name : String) (facts : DeviceFacts) (record : Geometry) : String :=
  let mode :=
    record.mode.name ++ (if record.optical then " optical" else "") ++
      (if record.fbOverride then " fb" else "")
  let size := ((size? record).map toString).getD "unknown"
  let partitions := if facts.hasPartitions then "yes" else "no"
  s!"{name}: drive=0x{Hex.ofByte facts.drive} mode={mode} " ++
    s!"chs={record.cylinders}/{record.heads}/{record.sectors} max={record.cap} " ++
    s!"sectors={size} partitions={partitions}"

/-- The line of an array. -/
def raidLine (found : Raid.ArrayMember) : String :=
  let name := (found.name.map (" name=" ++ ·)).getD ""
  s!"  mdraid {found.version.name}: level={found.level} members={found.members} " ++
    s!"index={found.memberIndex} size={found.perMemberSize} offset={found.dataOffset} " ++
    s!"uuid={Hex.ofBytes found.uuid}{name}"

/-- The lines of a device. -/
def deviceLines (report : DeviceEntry) : List String :=
  let first :=
    match report.facts with
    | some { drive, geometry := some record, hasPartitions, raid } =>
      deviceLine report.name { drive, geometry := some record, hasPartitions, raid } record
    | _ => s!"{report.name}: unavailable"
  [first] ++ ((report.facts.bind DeviceFacts.raid).map raidLine).toList ++
    (report.error.map ("  error: " ++ ·)).toList

def lines (report : Report) : List String :=
  report.devices.flatMap deviceLines

def member? {α : Type} (key : String) (encode : α → JsonValue) (value : Option α) :
    List (String × JsonValue) :=
  (value.map fun value => (key, encode value)).toList

def number (value : Nat) : JsonValue :=
  .number value

/-- The geometry of a device in a document. -/
def geometryJson (hasPartitions : Bool) (record : Geometry) : JsonValue :=
  .object [("addressing", .string record.mode.name), ("optical", .bool record.optical),
    ("fbOverride", .bool record.fbOverride), ("cylinders", number record.cylinders),
    ("heads", number record.heads), ("sectors", number record.sectors),
    ("maxSectors", number record.cap),
    ("totalSectors", ((size? record).map number).getD .null),
    ("hasPartitions", .bool hasPartitions)]

/-- An array in a document. -/
def raidJson (found : Raid.ArrayMember) : JsonValue :=
  .object ([("metadata", .string found.version.name), ("level", .number found.level),
    ("layout", number found.layout), ("members", number found.members),
    ("index", number found.memberIndex), ("arrayNumber", number found.arrayNumber),
    ("perMemberSize", number found.perMemberSize), ("dataOffset", number found.dataOffset),
    ("chunkSize", number found.chunkSize), ("uuid", .string (Hex.ofBytes found.uuid))] ++
    member? "name" .string found.name)

/-- What was found out about a device in a document. -/
def factsJson (facts : DeviceFacts) : List (String × JsonValue) :=
  [("drive", number facts.drive.toNat)] ++
    member? "geometry" (geometryJson facts.hasPartitions) facts.geometry ++
    member? "raid" raidJson facts.raid

def deviceJson (report : DeviceEntry) : JsonValue :=
  .object ([("name", .string report.name)] ++ (report.facts.map factsJson).getD [] ++
    member? "error" .string report.error)

def document (report : Report) : JsonValue :=
  .object [("devices", .array (report.devices.map deviceJson))]

def render (report : Report) (json : Bool) : String :=
  let lines := if json then [report.document.render] else report.lines
  String.join (lines.map (· ++ "\n"))

end Report

end FirmwareDisk.Survey
