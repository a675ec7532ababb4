import ArmTest.Vm.Cmdline
import ArmTest.Vm.Isolation
import ArmTest.Vm.Pinning
import ArmTest.Vm.Prepare
import ArmTest.Vm.Submit
import ArmTest.Memcached.Placement
import ArmTest.Mem.Expansion
import ArmTest.Mem.Options
import ArmTest.Mem.Stream
import ArmTest.Vcodec.Launches
import ArmTest.Nginx.Affinity
import ArmTest.Nginx.Bios
import ArmTest.Nginx.Frame
import ArmTest.Nginx.Loading
import ArmTest.Nginx.Messages
import ArmTest.Nginx.Numactl
import ArmTest.Nginx.Progression
import ArmTest.Nginx.Runs
import ArmTest.Nginx.Statistics
import ArmTest.Wrk.Report
import ArmTest.Redis.Extraction
import ArmTest.Fio.Aborts
import ArmTest.Fio.Failures
import ArmTest.Fio.ProcessData
import ArmTest.Fio.Restore
import ArmTest.Fio.Stability
import ArmTest.Fio.Warmup
import ArmTest.Shell.Command
import ArmTest.Shell.ErrExit
import ArmTest.Shell.Sed
import ArmTest.Concurrency.Threads
import ArmTest.Provision.Reboot
import ArmTest.Vm.Checks
import ArmTest.Vm.Convergence
import ArmTest.Shell.Slots
import ArmTest.Vm.Profile
