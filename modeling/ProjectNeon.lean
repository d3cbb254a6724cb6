import ProjectNeon.Runtime
import ProjectNeon.ModifiedUtf8
import ProjectNeon.Jni
import ProjectNeon.Sscanf
import ProjectNeon.NeonJni
import ProjectNeon.NeonApi
import ProjectNeon.Run
import ProjectNeon.LocalRefs
import ProjectNeon.Queries
import ProjectNeon.Exceptions
import ProjectNeon.Loading
import ProjectNeon.Heap
import ProjectNeon.Handles
import ProjectNeon.GlobalRefs
import ProjectNeon.Callbacks
import ProjectNeon.ErrorChannel
import ProjectNeon.ErrorReports
import ProjectNeon.RelayAddress
import ProjectNeon.Forwarding
import ProjectNeon.Threads
import ProjectNeon.ExceptionSafety
import ProjectNeon.ExamplePrograms
import ProjectNeon.Lifecycle
import ProjectNeon.Registry
