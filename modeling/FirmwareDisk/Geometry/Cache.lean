import FirmwareDisk.Geometry.Basic

set_option autoImplicit false

namespace FirmwareDisk

/-- A table of geometry records, with at most one for each drive. -/
structure GeometryCache where
  records : List Geometry := []
deriving DecidableEq, Repr

namespace GeometryCache

def get? (table : GeometryCache) (drive : DriveNumber) : Option Geometry :=
  table.records.find? fun record => record.drive = drive

/-- A list of records with `record` in the place of the one for its drive, or at the end. -/
def placed (record : Geometry) : List Geometry → List Geometry
  | [] => [record]
  | first :: rest =>
    if first.drive = record.drive then record :: rest else first :: placed record rest

/-- Records a drive. Its place in the table stays what it was. -/
def insert (table : GeometryCache) (record : Geometry) : GeometryCache where
  records := placed record table.records

def erase (table : GeometryCache) (drive : DriveNumber) : GeometryCache where
  records := table.records.eraseP fun record => record.drive = drive

/-- Takes the record of a drive out of the table, if there is one. -/
def take (table : GeometryCache) (drive : DriveNumber) : Option Geometry × GeometryCache :=
  match table.records.findIdx? fun record => record.drive = drive with
  | none => (none, table)
  | some place => (table.records[place]?, { records := table.records.eraseIdx place })

/-- Changes the record of a drive, if there is one. -/
def modify (table : GeometryCache) (drive : DriveNumber)
    (update : Geometry → Geometry) : GeometryCache :=
  match table.get? drive with
  | none => table
  | some record => table.insert (update record)

def size (table : GeometryCache) : Nat :=
  table.records.length

def isEmpty (table : GeometryCache) : Bool :=
  table.records.isEmpty

end GeometryCache

end FirmwareDisk
