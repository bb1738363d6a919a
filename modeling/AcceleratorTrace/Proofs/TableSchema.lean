import AcceleratorTrace.Proofs.NameGrammar
import AcceleratorTrace.Table
import Mathlib

/-!
# What the statements of a table say

The statements that create a table and insert a row are read as texts.  The first declares
the columns of the table with their types and says which of them may be missing; these are
the columns that the table lists by name, in the same order.  The second names them again
and binds one numbered value to each.
-/

namespace AcceleratorTrace

/-- What a column holds. -/
inductive ColumnType where
  | integer
  | blob
  deriving DecidableEq

/-- A column; an optional one may hold no value. -/
structure Column where
  name : String
  type : ColumnType
  optional : Bool
  deriving DecidableEq

namespace Column

def required (name : String) : Column := ⟨name, .integer, false⟩

def nullable (name : String) : Column := ⟨name, .integer, true⟩

end Column

namespace Sql

/-- A statement is made of words and of single marks. -/
inductive Token where
  | word (text : String)
  | mark (char : Char)
  deriving DecidableEq

def isMark (char : Char) : Bool :=
  char == '(' || char == ')' || char == ',' || char == ';'

def isSeparator (char : Char) : Bool := isMark char || char.isWhitespace

/-- The word of the letters read so far, if there are any. -/
def ended (letters : List Char) : List Token :=
  if letters.isEmpty then [] else [.word (String.ofList letters)]

/-- Cuts a text into words and marks, after the letters of a word that has begun. -/
def scan : (letters text : List Char) → List Token
  | letters, [] => ended letters
  | letters, char :: rest =>
      if isMark char then ended letters ++ .mark char :: scan [] rest
      else if char.isWhitespace then ended letters ++ scan [] rest
      else scan (letters ++ [char]) rest

def columnType? : String → Option ColumnType
  | "INTEGER" => some .integer
  | "BLOB" => some .blob
  | _ => none

/-- Reads the declaration of a column. -/
def column? : List Token → Option Column
  | [.word name, .word type] => (columnType? type).map fun type => ⟨name, type, true⟩
  | [.word name, .word type, .word "NOT", .word "NULL"] =>
      (columnType? type).map fun type => ⟨name, type, false⟩
  | _ => none

/-- Letters that make one word. -/
def isWord (letters : List Char) : Bool :=
  !letters.isEmpty && letters.all fun char => !isSeparator char

theorem scan_plain {letters : List Char} (plain : ∀ char ∈ letters, isSeparator char = false)
    (before rest : List Char) : scan before (letters ++ rest) = scan (before ++ letters) rest := by
  induction letters generalizing before with
  | nil => simp
  | cons char letters induction =>
      rw [List.forall_mem_cons] at plain
      obtain ⟨notMark, notSpace⟩ := Bool.or_eq_false_iff.mp plain.1
      rw [List.cons_append, scan, if_neg (by simp [notMark]), if_neg (by simp [notSpace]),
        induction plain.2, List.append_assoc, List.singleton_append]

/-- A text that a separator ends scans to these tokens. -/
def Scans (text : List Char) (found : List Token) : Prop :=
  ∀ (separator : Char) (rest : List Char), isSeparator separator = true →
    scan [] (text ++ separator :: rest) = found ++ scan [] (separator :: rest)

theorem scan_mark {char : Char} (mark : isMark char = true) (letters rest : List Char) :
    scan letters (char :: rest) = ended letters ++ .mark char :: scan [] rest := by
  rw [scan, if_pos mark]

theorem scan_space {char : Char} (space : char.isWhitespace = true) (mark : isMark char = false)
    (letters rest : List Char) : scan letters (char :: rest) = ended letters ++ scan [] rest := by
  rw [scan, if_neg (by simp [mark]), if_pos space]

namespace Scans

theorem word (text : String) (word : isWord text.toList = true) :
    Scans text.toList [.word text] := by
  intro separator rest separates
  obtain ⟨nonempty, plain⟩ := Bool.and_eq_true_iff.mp word
  rw [List.all_eq_true] at plain
  have ends : ended text.toList = [.word text] := by
    rw [ended, if_neg (by simpa using nonempty), String.ofList_toList]
  rw [scan_plain fun char member => by simpa using plain char member, List.nil_append]
  cases mark : isMark separator with
  | true =>
      rw [scan_mark mark, scan_mark mark, ends]
      rfl
  | false =>
      have space : separator.isWhitespace = true := by
        simpa [isSeparator, mark] using separates
      rw [scan_space space mark, scan_space space mark, ends]
      rfl

end Scans

end Sql

namespace Table

/-- The columns that the statement declares. -/
def columns : Table → List Column
  | .blockLog =>
      [.required "device_id", .required "stream_id", .required "task_id", .required "block_id",
        .required "context_id", .required "start_cycle", .required "duration_cycles",
        .required "device_task_type", .required "core_type", .required "core_id",
        .nullable "start_ns", .nullable "end_ns"]
  | .starsLog =>
      [.required "device_id", .required "func_type", .required "core_id", .required "stream_id",
        .required "task_id", .required "sqe_type", .required "sys_cycle", .required "block_num",
        .nullable "start_ns"]
  | .aiCpu =>
      [.required "device_id", .required "magic", .required "stream_id", .required "task_id",
        .nullable "thread_id", .nullable "kernel_type", .nullable "cpu_id",
        .required "start_cycle", .required "end_cycle", .required "dispatch_cycle",
        .nullable "queue_cycle", .nullable "total_ops", .nullable "start_ns", .nullable "end_ns"]
  | .qos =>
      [.required "device_id", .required "sys_cycle", .required "mode", .required "qos_count",
        .required "bandwidth_0", .required "bandwidth_1", .required "bandwidth_2",
        .required "bandwidth_3", .required "bandwidth_4", .nullable "start_ns"]
  | .hccl =>
      [.required "device_id", .required "magic", .required "item_type", .required "level",
        .required "start_cycle", .required "end_cycle", .required "item_id",
        .nullable "group_id", .nullable "count", .nullable "data_type", .nullable "op_kind",
        .nullable "plane_id", .nullable "src_rank", .nullable "dst_rank", .nullable "transport",
        .nullable "link_type", .nullable "size", ⟨"payload", .blob, true⟩,
        .nullable "start_ns", .nullable "end_ns"]
  | .npuMem =>
      [.required "device_id", .required "sys_cycle", .required "reported_device_id",
        .required "hbm_used", .required "ddr_used", .nullable "start_ns"]
  | .taskTime =>
      [.required "device_id", .required "stream_id", .required "task_id", .required "core_id",
        .required "start_cycle", .required "end_cycle", .nullable "start_ns", .nullable "end_ns",
        .nullable "duration_ns"]

end Table

end AcceleratorTrace
