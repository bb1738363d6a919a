import AcceleratorTrace.Engine
import AcceleratorTrace.Record

/-!
# Decoders

A decoder turns the bytes of exactly one record into a record.  There is one
per layout version, and the set is closed.
-/

namespace AcceleratorTrace

/-- Every layout version that can be decoded. -/
inductive Decoder where
  | blockLog
  | starsLog
  | aiCpuV1
  | aiCpuV4
  | qos
  | hccl
  | npuMem
  deriving DecidableEq, Repr

/-- Why bytes are not a record. -/
inductive DecodeError where
  | wrongLength (wrong : WrongLength)
  | declaredLength (layout : String) (declared expected : Nat)
  /-- A field of the record lies past the end of the bytes. -/
  | fieldOutside (layout : String)
  deriving DecidableEq, Repr

def DecodeError.message : DecodeError → String
  | .wrongLength wrong => wrong.message
  | .declaredLength layout declared expected =>
      s!"{layout}: record declares {declared} bytes but the layout is {expected} bytes"
  | .fieldOutside layout => s!"{layout}: field outside the record"

namespace Decoder

def all : List Decoder := [.blockLog, .starsLog, .aiCpuV1, .aiCpuV4, .qos, .hccl, .npuMem]

def layout : Decoder → Layout
  | .blockLog => BlockLog.layout
  | .starsLog => StarsLog.layout
  | .aiCpuV1 => AiCpu.layoutV1
  | .aiCpuV4 => AiCpu.layoutV4
  | .qos => Qos.layout
  | .hccl => Hccl.layout
  | .npuMem => NpuMem.layout

/-- A decoder goes by the name of its layout. -/
def name (decoder : Decoder) : String := decoder.layout.name

def ofName? (text : String) : Option Decoder :=
  all.find? fun decoder => decoder.name == text

def recordSize (decoder : Decoder) : Nat := decoder.layout.size

/-- The engine whose files the decoder understands. -/
def engine : Decoder → Engine
  | .blockLog => .taskTrack
  | .starsLog => .starsLog
  | .aiCpuV1 | .aiCpuV4 => .aiCpu
  | .qos => .qos
  | .hccl => .hccl
  | .npuMem => .npuMem

/-- Reads the fields of a record, whatever its length. -/
def read? : Decoder → List UInt8 → Option Record
  | .blockLog, raw => (BlockLog.read? raw).map .blockLog
  | .starsLog, raw => (StarsLog.read? raw).map .starsLog
  | .aiCpuV1, raw => (AiCpu.readV1? raw).map .aiCpu
  | .aiCpuV4, raw => (AiCpu.readV4? raw).map .aiCpu
  | .qos, raw => (Qos.read? raw).map .qos
  | .hccl, raw => (Hccl.read? raw).map .hccl
  | .npuMem, raw => (NpuMem.read? raw).map .npuMem

/-- The length that the record itself claims, for the kinds that do. -/
def declaredLength? : Decoder → List UInt8 → Option Nat
  | .hccl, raw => Hccl.declaredLength? raw
  | _, _ => none

/-- Checks what a record of the right length claims about its length. -/
def checkDeclared (decoder : Decoder) (raw : List UInt8) : Except DecodeError Unit :=
  match decoder.declaredLength? raw with
  | none => .ok ()
  | some declared =>
      if declared ≠ decoder.recordSize then
        .error (.declaredLength decoder.name declared decoder.recordSize)
      else .ok ()

/-- Decodes exactly one record. -/
def decode (decoder : Decoder) (raw : List UInt8) : Except DecodeError Record :=
  match decoder.layout.checkLength raw with
  | .error wrong => .error (.wrongLength wrong)
  | .ok () =>
      match decoder.checkDeclared raw with
      | .error error => .error error
      | .ok () =>
          match decoder.read? raw with
          | none => .error (.fieldOutside decoder.name)
          | some record => .ok record

end Decoder

end AcceleratorTrace
