/-!
# Tables of the store

One table per kind of record.  The names of its columns and the statement that
creates it are two texts that have to say the same; the statement that inserts a
row is made from the names.
-/

namespace AcceleratorTrace

/-- Destination tables, in the order in which a batch is written. -/
inductive Table where
  | blockLog
  | starsLog
  | aiCpu
  | qos
  | hccl
  | npuMem
  | taskTime
  deriving DecidableEq, Repr

/-- What happens to the rows of an earlier run when a batch is written. -/
inductive WritePolicy where
  /-- Earlier rows stay and the batch is added after them. -/
  | append
  /-- Earlier rows are dropped and the batch takes their place. -/
  | replace
  deriving DecidableEq, Repr

namespace Table

def all : List Table :=
  [.blockLog, .starsLog, .aiCpu, .qos, .hccl, .npuMem, .taskTime]

def name : Table → String
  | .blockLog => "block_log"
  | .starsLog => "stars_log"
  | .aiCpu => "ai_cpu"
  | .qos => "qos"
  | .hccl => "hccl"
  | .npuMem => "npu_mem"
  | .taskTime => "task_time"

def ofName? (text : String) : Option Table :=
  all.find? fun table => table.name == text

/-- Only the derived summary of task times is rebuilt by every run. -/
def policy : Table → WritePolicy
  | .taskTime => .replace
  | _ => .append

/-- The device the slice came from, the fields of the record, then the
wall-clock times. -/
def columnNames : Table → List String
  | .blockLog =>
      ["device_id", "stream_id", "task_id", "block_id", "context_id", "start_cycle",
        "duration_cycles", "device_task_type", "core_type", "core_id", "start_ns", "end_ns"]
  | .starsLog =>
      ["device_id", "func_type", "core_id", "stream_id", "task_id", "sqe_type", "sys_cycle",
        "block_num", "start_ns"]
  | .aiCpu =>
      ["device_id", "magic", "stream_id", "task_id", "thread_id", "kernel_type", "cpu_id",
        "start_cycle", "end_cycle", "dispatch_cycle", "queue_cycle", "total_ops", "start_ns",
        "end_ns"]
  | .qos =>
      ["device_id", "sys_cycle", "mode", "qos_count", "bandwidth_0", "bandwidth_1", "bandwidth_2",
        "bandwidth_3", "bandwidth_4", "start_ns"]
  | .hccl =>
      ["device_id", "magic", "item_type", "level", "start_cycle", "end_cycle", "item_id",
        "group_id", "count", "data_type", "op_kind", "plane_id", "src_rank", "dst_rank",
        "transport", "link_type", "size", "payload", "start_ns", "end_ns"]
  | .npuMem =>
      ["device_id", "sys_cycle", "reported_device_id", "hbm_used", "ddr_used", "start_ns"]
  | .taskTime =>
      ["device_id", "stream_id", "task_id", "core_id", "start_cycle", "end_cycle", "start_ns",
        "end_ns", "duration_ns"]

/-- The statement that creates the table unless it exists. -/
def createStatement : Table → String
  | .blockLog => "
CREATE TABLE IF NOT EXISTS block_log (
    device_id INTEGER NOT NULL,
    stream_id INTEGER NOT NULL,
    task_id INTEGER NOT NULL,
    block_id INTEGER NOT NULL,
    context_id INTEGER NOT NULL,
    start_cycle INTEGER NOT NULL,
    duration_cycles INTEGER NOT NULL,
    device_task_type INTEGER NOT NULL,
    core_type INTEGER NOT NULL,
    core_id INTEGER NOT NULL,
    start_ns INTEGER,
    end_ns INTEGER
);
"
  | .starsLog => "
CREATE TABLE IF NOT EXISTS stars_log (
    device_id INTEGER NOT NULL,
    func_type INTEGER NOT NULL,
    core_id INTEGER NOT NULL,
    stream_id INTEGER NOT NULL,
    task_id INTEGER NOT NULL,
    sqe_type INTEGER NOT NULL,
    sys_cycle INTEGER NOT NULL,
    block_num INTEGER NOT NULL,
    start_ns INTEGER
);
"
  | .aiCpu => "
CREATE TABLE IF NOT EXISTS ai_cpu (
    device_id INTEGER NOT NULL,
    magic INTEGER NOT NULL,
    stream_id INTEGER NOT NULL,
    task_id INTEGER NOT NULL,
    thread_id INTEGER,
    kernel_type INTEGER,
    cpu_id INTEGER,
    start_cycle INTEGER NOT NULL,
    end_cycle INTEGER NOT NULL,
    dispatch_cycle INTEGER NOT NULL,
    queue_cycle INTEGER,
    total_ops INTEGER,
    start_ns INTEGER,
    end_ns INTEGER
);
"
  | .qos => "
CREATE TABLE IF NOT EXISTS qos (
    device_id INTEGER NOT NULL,
    sys_cycle INTEGER NOT NULL,
    mode INTEGER NOT NULL,
    qos_count INTEGER NOT NULL,
    bandwidth_0 INTEGER NOT NULL,
    bandwidth_1 INTEGER NOT NULL,
    bandwidth_2 INTEGER NOT NULL,
    bandwidth_3 INTEGER NOT NULL,
    bandwidth_4 INTEGER NOT NULL,
    start_ns INTEGER
);
"
  | .hccl => "
CREATE TABLE IF NOT EXISTS hccl (
    device_id INTEGER NOT NULL,
    magic INTEGER NOT NULL,
    item_type INTEGER NOT NULL,
    level INTEGER NOT NULL,
    start_cycle INTEGER NOT NULL,
    end_cycle INTEGER NOT NULL,
    item_id INTEGER NOT NULL,
    group_id INTEGER,
    count INTEGER,
    data_type INTEGER,
    op_kind INTEGER,
    plane_id INTEGER,
    src_rank INTEGER,
    dst_rank INTEGER,
    transport INTEGER,
    link_type INTEGER,
    size INTEGER,
    payload BLOB,
    start_ns INTEGER,
    end_ns INTEGER
);
"
  | .npuMem => "
CREATE TABLE IF NOT EXISTS npu_mem (
    device_id INTEGER NOT NULL,
    sys_cycle INTEGER NOT NULL,
    reported_device_id INTEGER NOT NULL,
    hbm_used INTEGER NOT NULL,
    ddr_used INTEGER NOT NULL,
    start_ns INTEGER
);
"
  | .taskTime => "
CREATE TABLE IF NOT EXISTS task_time (
    device_id INTEGER NOT NULL,
    stream_id INTEGER NOT NULL,
    task_id INTEGER NOT NULL,
    core_id INTEGER NOT NULL,
    start_cycle INTEGER NOT NULL,
    end_cycle INTEGER NOT NULL,
    start_ns INTEGER,
    end_ns INTEGER,
    duration_ns INTEGER
);
"

end Table

end AcceleratorTrace
