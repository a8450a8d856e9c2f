import OsByRust.Lib.Transition
import OsByRust.Lib.BoundedQueue
import OsByRust.Lib.Span
import OsByRust.Lib.Vec
import OsByRust.Lib.SpinLock
import OsByRust.Lib.Iterator
import OsByRust.Allocator.Basic
import OsByRust.Allocator.LinkedList
import OsByRust.Allocator.LinkedListHeap
import OsByRust.Allocator.FixedSizeBlock
import OsByRust.Allocator.FixedSizeBlockHeap
import OsByRust.Allocator.Bump
import OsByRust.Memory.X86
import OsByRust.Memory.FrameAllocator
import OsByRust.Memory.Mmu
import OsByRust.Memory.Paging
import OsByRust.Task.Executor
import OsByRust.Task.ExecutorRuns
import OsByRust.Task.ExecutorLoop
import OsByRust.Task.SimpleExecutor
import OsByRust.Task.Timer
import OsByRust.Task.TimerRuns
import OsByRust.Input.Keyboard
import OsByRust.Input.KeyboardRuns
import OsByRust.Task.Keyboard
import OsByRust.Interrupts.Handlers
import OsByRust.Interrupts.Runs
import OsByRust.Vga.Writer
import OsByRust.Vga.Terminal
