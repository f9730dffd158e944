import HiDumper.Native.DumperOpts

/-!
# ConfigData: the dumper and group tables

Model of `common/dumper_constant.h` and `util/config_data.{h,cpp}`. A dumper is a
list of items (the dumper itself, its filters, its output); a group is a list of
names of dumpers and minigroups, to be expanded once per process, once per CPU
or once. `ConfigData` is any such pair of tables, `ConfigData.builtin` the one
the service is built with.
-/

namespace HiDumper.Native

/-! ## Constants -/

/-- `enum DumperConstant`: one numbering for classes, levels and group types. -/
inductive DumperConstant where
  | none
  | group
  | dumperBegin
  | cpuDumper
  | fileDumper
  | envParamDumper
  | cmdDumper
  | propertiesDumper
  | apiDumper
  | listDumper
  | versionDumper
  | saDumper
  | memoryDumper
  | jsheapMemoryDumper
  | cjheapMemoryDumper
  | heapMemoryDumper
  | eventDetailDumper
  | eventListDumper
  | fdThreadDumper
  | stackDumper
  | trafficDumper
  | ipcStatDumper
  | dumperEnd
  | filterBegin
  | columnRowsFilter
  | fileFormatDumpFilter
  | filterEnd
  | outputBegin
  | stdOutput
  | fileOutput
  | fdOutput
  | zipOutput
  | outputEnd
  | levelBegin
  | levelNone
  | levelMiddle
  | levelHigh
  | levelAll
  | levelEnd
  | grouptypeBegin
  | grouptypePid
  | grouptypeCpuid
  | grouptypeEnd
  | loop
  deriving Repr, DecidableEq

namespace DumperConstant

/-- Strictly between two constants, as the range checks of `DumpCfg` test it. -/
def between (lo hi c : DumperConstant) : Bool := lo.ctorIdx < c.ctorIdx && c.ctorIdx < hi.ctorIdx

/-- `DumpCfg::IsDumper(int cls)`. -/
def isDumper (cls : DumperConstant) : Bool := between dumperBegin dumperEnd cls

/-- `DumpCfg::IsFilter(int cls)`. -/
def isFilter (cls : DumperConstant) : Bool := between filterBegin filterEnd cls

/-- `DumpCfg::IsLevel(int level)`. -/
def isLevel (level : DumperConstant) : Bool := between levelBegin levelEnd level

end DumperConstant

/-! ## Tables -/

/-- `ConfigData::ItemCfg`. -/
structure ItemCfg where
  name : String := ""
  desc : String := ""
  target : String := ""
  sectionName : String := ""
  cls : DumperConstant
  level : DumperConstant := .none
  loop : DumperConstant := .none
  filterCfg : String := ""
  deriving Repr, DecidableEq

/-- `ConfigData::DumperCfg`. -/
structure DumperCfg where
  name : String
  desc : String
  list : List ItemCfg
  deriving Repr, DecidableEq

/-- `ConfigData::GroupCfg`. A null `list_` is the empty list, which the code
    treats alike. -/
structure GroupCfg where
  name : String
  desc : String
  list : List String
  type : DumperConstant
  expand : Bool
  deriving Repr, DecidableEq

/-- `dumpers_` and `groups_`. -/
structure ConfigData where
  dumpers : List DumperCfg
  groups : List GroupCfg

namespace ConfigData

/-- `CONFIG_DUMPER_`. -/
def configDumper_ : String := "dumper_"

/-- `CONFIG_GROUP_`. -/
def configGroup_ : String := "group_"

/-- `CONFIG_MINIGROUP_`. -/
def configMinigroup_ : String := "groupmini_"

/-- `CONFIG_GROUP_LOG_`. -/
def configGroupLog_ : String := "group_log_"

/-- `CONFIG_GROUP_SYSTEM_`. -/
def configGroupSystem_ : String := "group_system_"

/-- `NEST_MAX`. -/
def nestMax : Nat := 10

/-- The search loop of `GetDumper(name)`: empty names never match. -/
def findDumper (table : ConfigData) (name : String) : Option DumperCfg :=
  table.dumpers.find? fun d => d.name ≠ "" && name = d.name

/-- The search loop of `GetGroup(name)`: empty names never match. -/
def findGroup (table : ConfigData) (name : String) : Option GroupCfg :=
  table.groups.find? fun g => g.name ≠ "" && name = g.name

/-! ## The tables of the service -/

/-- An entry of `dumpers_`: it takes name and description from its first item. -/
def dumperCfg (first : ItemCfg) (rest : List ItemCfg) : DumperCfg :=
  ⟨first.name, first.desc, first :: rest⟩

/-- The `FD_OUTPUT` item that ends a dumper. -/
def fdOutput : ItemCfg := { cls := .fdOutput }

/-- The `FD_OUTPUT` item that ends a looping dumper. -/
def fdOutputLoop : ItemCfg := { cls := .fdOutput, loop := .loop }

/-- `ConfigData::dumpers_` with the item lists it points to. -/
def builtinDumpers : List DumperCfg :=
  [dumperCfg
      { name := "dumper_base_info", desc := "Base Information", cls := .apiDumper }
      [fdOutput],
    dumperCfg
      { name := "dumper_kernel_version", desc := "Kernel Version", target := "/proc/version",
        cls := .fileDumper }
      [fdOutput],
    dumperCfg
      { name := "dumper_command_line", desc := "Command Line", target := "/proc/cmdline",
        cls := .fileDumper }
      [fdOutput],
    dumperCfg
      { name := "dumper_kernel_wake_sources", desc := "KERNEL WAKE SOURCES",
        target := "/sys/kernel/debug/wakeup_sources", cls := .fileDumper }
      [fdOutput],
    dumperCfg
      { name := "dumper_kernel_cpu_freq", desc := "KERNEL CPUFREQ",
        target := "cat /sys/devices/system/cpu/cpu%cpuid/cpufreq/cpuinfo_cur_freq",
        cls := .cmdDumper }
      [fdOutput,
       { target := "cat /sys/devices/system/cpu/cpu%cpuid/cpufreq/cpuinfo_max_freq",
         cls := .cmdDumper },
       fdOutput],
    dumperCfg
      { name := "dumper_uptime", desc := "Up Time", target := "uptime -p", cls := .cmdDumper }
      [fdOutput],
    dumperCfg
      { name := "dumper_cpu_usage", desc := "CPU Usage", target := "%pid", cls := .cpuDumper }
      [fdOutput],
    dumperCfg
      { name := "dumper_cpu_freq", desc := "CPU Frequency",
        target := "cat /sys/devices/system/cpu/cpu%cpuid/cpufreq/cpuinfo_cur_freq",
        cls := .cmdDumper }
      [fdOutput,
       { target := "cat /sys/devices/system/cpu/cpu%cpuid/cpufreq/cpuinfo_max_freq",
         cls := .cmdDumper },
       fdOutput],
    dumperCfg
      { name := "dumper_mem", desc := "Memory Information", target := "%pid",
        cls := .memoryDumper, loop := .loop }
      [fdOutputLoop],
    dumperCfg
      { name := "dumper_jsheap_memory", desc := "jsheap Memory Information", target := "%pid",
        cls := .jsheapMemoryDumper, loop := .loop }
      [fdOutputLoop],
    dumperCfg
      { name := "dumper_cjheap_memory", desc := "cjheap Memory Information", target := "%pid",
        cls := .cjheapMemoryDumper, loop := .loop }
      [fdOutputLoop],
    dumperCfg
      { name := "dumper_heap_memory", desc := "Heap Memory Information", target := "%pid",
        cls := .heapMemoryDumper }
      [fdOutput],
    dumperCfg
      { name := "dumper_event_list", desc := "event List Information", cls := .eventListDumper }
      [fdOutput],
    dumperCfg
      { name := "dumper_event_detail", desc := "event Detail Information",
        cls := .eventDetailDumper }
      [fdOutput],
    dumperCfg
      { name := "dumper_fd_thread", desc := "fd Thread Information", cls := .fdThreadDumper }
      [fdOutput],
    dumperCfg
      { name := "dumper_env", desc := "Environment Variable", target := "printenv",
        cls := .cmdDumper }
      [fdOutput],
    dumperCfg
      { name := "dumper_kernel_module", desc := "Kernel Module", target := "/proc/modules",
        cls := .fileDumper }
      [fdOutput, { target := "lsmod", cls := .cmdDumper }, fdOutput],
    dumperCfg
      { name := "dumper_dump_format_version", desc := "HiDumper Version",
        target := "HiDumper version:x.x", cls := .versionDumper }
      [fdOutput],
    dumperCfg
      { name := "dumper_slabinfo", desc := "SLAB INFO", target := "/proc/slabinfo",
        cls := .fileDumper }
      [fdOutput],
    dumperCfg
      { name := "dumper_ldkslabinfo", desc := "LDK SLAB INFO",
        target := "/proc/devhost/root/slabinfo", cls := .fileDumper }
      [fdOutput],
    dumperCfg
      { name := "dumper_zoneinfo", desc := "ZONE INFO", target := "/proc/zoneinfo",
        cls := .fileDumper }
      [fdOutput],
    dumperCfg
      { name := "dumper_vmstat", desc := "VIRTUAL MEMORY STATS", target := "/proc/vmstat",
        cls := .fileDumper }
      [fdOutput],
    dumperCfg
      { name := "dumper_vmallocinfo", desc := "VIRTUAL MEMORY STATS",
        target := "/proc/vmallocinfo", cls := .fileDumper }
      [fdOutput],
    dumperCfg
      { name := "dumper_crash", desc := "Crash Log", target := "/data/log/faultlog/faultlogger",
        cls := .fileDumper }
      [fdOutput],
    dumperCfg
      { name := "dumper_kernel_log", desc := "Kernel Log", target := "dmesg", cls := .cmdDumper,
        loop := .loop }
      [fdOutputLoop],
    dumperCfg
      { name := "dumper_hilog", desc := "Hilog", target := "hilog -x --exit", cls := .cmdDumper,
        loop := .loop }
      [fdOutputLoop],
    dumperCfg
      { name := "dumper_port", desc := "Port Information", target := "netstat -nW",
        cls := .cmdDumper }
      [fdOutput],
    dumperCfg
      { name := "dumper_packet", desc := "Packet State", target := "/proc/net/dev",
        cls := .fileDumper }
      [fdOutput,
       { target := "/proc/net/xt_qtaguid/iface_stat_all", cls := .fileDumper },
       fdOutput,
       { target := "/proc/net/xt_qtaguid/iface_stat_fmt", cls := .fileDumper },
       fdOutput,
       { target := "/proc/net/xt_qtaguid/ctrl", cls := .fileDumper },
       fdOutput,
       { target := "/proc/net/xt_qtaguid/stats", cls := .fileDumper },
       fdOutput],
    dumperCfg
      { name := "dumper_ip", desc := "IP v4/6 State", target := "ifconfig -a", cls := .cmdDumper }
      [fdOutput],
    dumperCfg
      { name := "dumper_ip_table", desc := "IPTable v4/6 Information",
        target := "iptables -L -nvx", cls := .cmdDumper }
      [fdOutput,
       { target := "ip6tables -L -nvx", cls := .cmdDumper },
       fdOutput,
       { target := "iptables -t nat -L -nvx", cls := .cmdDumper },
       fdOutput,
       { target := "iptables -t mangle -L -nvx", cls := .cmdDumper },
       fdOutput,
       { target := "ip6tables -t mangle -L -nvx", cls := .cmdDumper },
       fdOutput,
       { target := "iptables -t raw -L -nvx", cls := .cmdDumper },
       fdOutput,
       { target := "ip6tables -t raw -L -nvx", cls := .cmdDumper },
       fdOutput],
    dumperCfg
      { name := "dumper_route_table", desc := "IP Table v4/6 Information",
        target := "/data/misc/net/rt_tables", cls := .fileDumper }
      [fdOutput],
    dumperCfg
      { name := "dumper_ipc", desc := "IPC Information",
        target := "/sys/kernel/debug/binder/failed_transaction_log", cls := .fileDumper }
      [fdOutput,
       { target := "/sys/kernel/debug/binder/transaction_log", cls := .fileDumper },
       fdOutput,
       { target := "/sys/kernel/debug/binder/transactions", cls := .fileDumper },
       fdOutput,
       { target := "/sys/kernel/debug/binder/stats", cls := .fileDumper },
       fdOutput,
       { target := "/sys/kernel/debug/binder/state", cls := .fileDumper },
       fdOutput],
    dumperCfg
      { name := "dumper_ip_rules", desc := "IP RULES v4/6", target := "ip link",
        cls := .cmdDumper }
      [fdOutput,
       { target := "ip -4 addr show", cls := .cmdDumper },
       fdOutput,
       { target := "ip -6 addr show", cls := .cmdDumper },
       fdOutput,
       { target := "ip rule show", cls := .cmdDumper },
       fdOutput,
       { target := "ip -6 rule show", cls := .cmdDumper },
       fdOutput],
    dumperCfg
      { name := "dumper_storage_state", desc := "Storage State", target := "storaged -u -p",
        cls := .cmdDumper }
      [fdOutput],
    dumperCfg
      { name := "dumper_block", desc := "Block Information", target := "df -k",
        cls := .cmdDumper }
      [fdOutput],
    dumperCfg
      { name := "dumper_file", desc := "File Information", target := "lsof", cls := .cmdDumper }
      [fdOutput],
    dumperCfg
      { name := "dumper_top_io", desc := "TOP IO Information", target := "iotop -n 1 -m 100",
        cls := .cmdDumper }
      [{ cls := .fileFormatDumpFilter, level := .levelAll }, fdOutput],
    dumperCfg
      { name := "dumper_mounts", desc := "Mount List", target := "/proc/mounts",
        cls := .fileDumper }
      [fdOutput],
    dumperCfg
      { name := "dumper_threads", desc := "Processes/Threads List", target := "ps -efT",
        cls := .cmdDumper }
      [fdOutput],
    dumperCfg
      { name := "dumper_threads_pid", desc := "Processes/Threads List",
        target := "ps -efT -p %pid", cls := .cmdDumper }
      [fdOutput],
    dumperCfg
      { name := "dumper_smap", desc := "Process SMAP Information", target := "/proc/%pid/smaps",
        cls := .fileDumper, loop := .loop }
      [fdOutputLoop],
    dumperCfg
      { name := "dumper_map", desc := "Process MAP Information", target := "/proc/%pid/maps",
        cls := .fileDumper, loop := .loop }
      [fdOutputLoop],
    dumperCfg
      { name := "dumper_block_channel", desc := "Block Channel", target := "/proc/%pid/wchan",
        cls := .fileDumper }
      [fdOutput],
    dumperCfg
      { name := "dumper_excute_time", desc := "Excute Time", target := "ps -o \"TIME\" -p %pid",
        cls := .cmdDumper }
      [fdOutput],
    dumperCfg
      { name := "dumper_mount_info", desc := "Mount Information",
        target := "/proc/%pid/mountinfo", cls := .fileDumper, loop := .loop }
      [fdOutputLoop],
    dumperCfg
      { name := "dumper_system_ability", desc := "System Ability Information",
        target := "ability", cls := .saDumper }
      [fdOutput],
    dumperCfg
      { name := "dumper_stack", desc := "Dump Stack Info", target := "dumpcatcher -p %pid",
        cls := .cmdDumper }
      [fdOutput],
    dumperCfg
      { name := "dumper_list_service", desc := "list service", target := "service",
        cls := .listDumper }
      [fdOutput],
    dumperCfg
      { name := "dumper_list_system_ability", desc := "list system ability", target := "ability",
        cls := .listDumper }
      [fdOutput],
    dumperCfg
      { name := "dumper_list_system", desc := "list system", target := "system",
        cls := .listDumper }
      [fdOutput],
    dumperCfg
      { name := "dumper_test", desc := "test used dumper",
        target := "/data/local/tmp/hidumper_mockdata_0001.txt", cls := .fileDumper }
      [fdOutput,
       { target := "cat /data/local/tmp/hidumper_mockdata_0002.txt", cls := .cmdDumper },
       fdOutput],
    dumperCfg
      { name := "dumper_io_info", desc := "io information", target := "/proc/%pid/io",
        cls := .fileDumper }
      [fdOutput],
    dumperCfg
      { name := "dumper_traffic", desc := "Traffic Information", target := "%pid",
        cls := .trafficDumper }
      [fdOutput],
    dumperCfg
      { name := "dumper_ipc_stat", desc := "IPC stat Information", target := "%pid",
        cls := .ipcStatDumper }
      [fdOutput]]

/-- `ConfigData::groups_` with the name lists it points to. -/
def builtinGroups : List GroupCfg :=
  [⟨"group_cpufreq", "group of cpu freq dumper",
      ["dumper_cpu_freq"], .grouptypeCpuid, true⟩,
    ⟨"group_cpuusage", "group of cpu usage dumper",
      ["dumper_cpu_usage"], .grouptypePid, false⟩,
    ⟨"group_log_kernel", "group of kernel log dumper",
      ["dumper_kernel_log"], .none, false⟩,
    ⟨"group_log_hilog", "group of hilog dumper",
      ["dumper_hilog"], .none, false⟩,
    ⟨"group_log_init", "group of init log dumper",
      ["cpu_dumper_name_000"], .none, false⟩,
    ⟨"group_memory", "group of memory dumper",
      ["dumper_mem"], .grouptypePid, false⟩,
    ⟨"group_ipc", "group of ipc stat dumper",
      ["dumper_ipc_stat"], .grouptypePid, false⟩,
    ⟨"group_storage", "group of storage dumper",
      ["dumper_storage_state", "dumper_block", "dumper_file", "dumper_top_io", "dumper_mounts"],
       .none, false⟩,
    ⟨"group_net", "group of net dumper",
      ["dumper_port", "dumper_packet", "dumper_ip", "dumper_ip_table", "dumper_route_table",
       "dumper_ipc", "dumper_ip_rules"], .none, false⟩,
    ⟨"group_service", "group of service dumper",
      ["mem_dumper_name_000"], .none, false⟩,
    ⟨"group_ability", "group of ability dumper",
      ["dumper_system_ability"], .none, false⟩,
    ⟨"group_system_base", "group of base log dumper",
      ["dumper_base_info", "dumper_kernel_version", "dumper_command_line",
       "dumper_kernel_wake_sources", "dumper_uptime"], .none, false⟩,
    ⟨"group_storage io", "group of io dumper",
      ["dumper_io_info"], .grouptypePid, false⟩,
    ⟨"group_net traffic", "group of traffic dumper",
      ["dumper_traffic"], .grouptypePid, false⟩,
    ⟨"group_system_system", "group of system log dumper",
      ["dumper_env", "dumper_kernel_module", "dumper_dump_format_version", "dumper_slabinfo",
       "dumper_ldkslabinfo", "dumper_zoneinfo", "dumper_vmstat", "dumper_vmallocinfo",
       "groupmini_cpuid_expand_systemSystemGroup", "groupmini_pid_nonexpand_systemSystemGroup"],
       .none, false⟩,
    ⟨"group_processes", "group of processes dumper",
      ["dumper_threads", "groupmini_expand_processesGroup"], .none, false⟩,
    ⟨"group_eng_processes", "group of processes dumper by eng ",
      ["dumper_threads", "groupmini_expand_processesGroup_eng"], .none, false⟩,
    ⟨"group_pid_processes", "group of processes pid dumper",
      ["groupmini_pid_expand_processesGroup"], .none, false⟩,
    ⟨"group_pid_eng_processes", "group of processes pid dumper by eng",
      ["groupmini_pid_expand_processesGroup_eng"], .none, false⟩,
    ⟨"group_faultlog", "group of fault log dumper",
      ["dumper_crash"], .none, false⟩,
    ⟨"group_stack", "group of stack dumper",
      ["dumper_stack"], .grouptypePid, true⟩,
    ⟨"group_test", "group of test dumper",
      ["dumper_test"], .none, false⟩,
    ⟨"groupmini_expand_processesGroup", "mini-group for of processes dumper",
      ["dumper_block_channel", "dumper_excute_time", "dumper_mount_info"], .grouptypePid, true⟩,
    ⟨"groupmini_expand_processesGroup_eng", "mini-group for of processes dumper by eng",
      ["dumper_map", "dumper_block_channel", "dumper_excute_time", "dumper_mount_info"],
       .grouptypePid, true⟩,
    ⟨"groupmini_pid_expand_processesGroup", "mini-group for of processes dumper",
      ["dumper_threads_pid", "dumper_block_channel", "dumper_excute_time", "dumper_mount_info"],
       .grouptypePid, true⟩,
    ⟨"groupmini_pid_expand_processesGroup_eng", "mini-group for of processes dumper by eng",
      ["dumper_threads_pid", "dumper_map", "dumper_block_channel", "dumper_excute_time",
       "dumper_mount_info"], .grouptypePid, true⟩,
    ⟨"groupmini_cpuid_expand_systemBaseGroup", "mini-group for of base dumper",
      ["dumper_kernel_cpu_freq"], .grouptypeCpuid, true⟩,
    ⟨"groupmini_cpuid_expand_systemSystemGroup", "mini-group for of system dumper",
      ["dumper_cpu_freq"], .grouptypeCpuid, true⟩,
    ⟨"groupmini_pid_nonexpand_systemSystemGroup", "group of cpu usage dumper",
      ["dumper_cpu_usage", "dumper_mem"], .grouptypePid, false⟩]

/-- The tables the service is built with. -/
def builtin : ConfigData := ⟨builtinDumpers, builtinGroups⟩

end ConfigData

end HiDumper.Native
