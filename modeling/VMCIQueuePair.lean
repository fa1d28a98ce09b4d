import VMCIQueuePair.PageCounts
import VMCIQueuePair.Contracts
import VMCIQueuePair.Hypervisor
import VMCIQueuePair.Buffers
import VMCIQueuePair.Table
